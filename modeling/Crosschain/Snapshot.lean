import Crosschain.Digest
import Crosschain.Path
import Crosschain.Text.Utf8

/-!
# Snapshots of a store

A block commits to a snapshot: all values of the chain that the other chain may ask for, under keys
made from a prefix and a path. The proof of a snapshot is its own canonical text, and the root of a
snapshot is the hash of that text, so a proof opens a root only if it spells what was committed.
-/

namespace Crosschain

/-! ### Byte strings that chains exchange -/

/-- Why some bytes are no prefix or no proof. -/
inductive CommitmentError
  | emptyPrefix
  | emptyProof
  deriving DecidableEq, Repr

instance : Explains CommitmentError where
  lines
    | .emptyPrefix => ["empty commitment prefix"]
    | .emptyProof => ["empty merkle proof"]

/-- The prefix of all keys of a chain. -/
structure StorePrefix where
  bytes : Bytes
  deriving DecidableEq, Repr

namespace StorePrefix

def default : StorePrefix := ⟨Bytes.ofText "ibc"⟩

instance : Inhabited StorePrefix := ⟨default⟩

/-- A prefix is not empty. -/
def ofBytes (bs : Bytes) : Except CommitmentError StorePrefix :=
  if bs.isEmpty then .error .emptyPrefix else .ok ⟨bs⟩

/-- The text of the prefix, or its byte numbers if it spells no text. -/
def debugText (p : StorePrefix) : String :=
  match Utf8.decode? p.bytes with
  | some s => s
  | none =>
    "<not valid UTF8: [" ++ ", ".intercalate (p.bytes.map fun b => b.toNat.repr) ++ "]>"

def toJson (p : StorePrefix) : Json := .bytes p.bytes

def ofJson? (j : Json) : Option StorePrefix := j.asBytes?.map StorePrefix.mk

def key (p : StorePrefix) (path : Path) : String :=
  Utf8.decodeLenient p.bytes ++ "/" ++ path.text

end StorePrefix

/-- What a block commits to, as the other chain's client knows it. -/
structure StateRoot where
  bytes : Bytes
  deriving DecidableEq, Repr

namespace StateRoot

def debugText (r : StateRoot) : String :=
  "CommitmentRoot(\"" ++ Hex.encode .upper r.bytes ++ "\")"

def toJson (r : StateRoot) : Json := .bytes r.bytes

def ofJson? (j : Json) : Option StateRoot := j.asBytes?.map StateRoot.mk

end StateRoot

/-- What is shown to the other chain to prove a value. -/
structure StateProof where
  bytes : Bytes
  deriving DecidableEq, Repr

namespace StateProof

/-- A proof is not empty. -/
def ofBytes (bs : Bytes) : Except CommitmentError StateProof :=
  if bs.isEmpty then .error .emptyProof else .ok ⟨bs⟩

def debugText (p : StateProof) : String :=
  "CommitmentProofBytes(" ++ p.bytes.length.repr ++ " bytes)"

def toJson (p : StateProof) : Json := .bytes p.bytes

def ofJson? (j : Json) : Option StateProof := j.asBytes?.map StateProof.mk

end StateProof

/-! ### Snapshots -/

/-- The values of a store by their keys. -/
structure Snapshot where
  entries : Map String Bytes

namespace Snapshot

def empty : Snapshot := ⟨∅⟩

/-- The snapshot with a value put under the key of a path. -/
def insert (s : Snapshot) (label : StorePrefix) (path : Path) (value : Bytes) : Snapshot :=
  ⟨s.entries.insert (label.key path) value⟩

def get? (s : Snapshot) (key : String) : Option Bytes := s.entries[key]?

/-- The keys whose values differ, with their values in the second snapshot. -/
def changes (s t : Snapshot) : List (String × Option Bytes) :=
  let gone := (s.entries.filter fun key _ => !t.entries.contains key).keys.map fun key => (key, none)
  let fresh := (t.entries.filter fun key value => s.entries[key]? != some value).toList
  gone ++ fresh.map fun e => (e.1, some e.2)

/-- The canonical form: one member a key, the keys in order. -/
def toJson (s : Snapshot) : Json := .obj (s.entries.toList.map fun e => (e.1, .bytes e.2))

def encode (s : Snapshot) : Bytes := s.toJson.encode

/-- Takes up the members of an object in order. -/
def ofMembers? : List (Option String × Json) → Map String Bytes → Option (Map String Bytes)
  | [], m => some m
  -- A later value of a key stands.
  | (some key, j) :: r, m => j.asBytes?.bind fun value => ofMembers? r (m.insert key value)
  | (none, _) :: _, _ => none

/-- Reads an object of byte strings. -/
def ofJson? : Json → Option Snapshot
  | .object members => (ofMembers? members ∅).map Snapshot.mk
  | _ => none

def decode? (bs : Bytes) : Option Snapshot := (Json.decode? bs).bind ofJson?

def root [Digest] (s : Snapshot) : StateRoot := ⟨Digest.hash s.encode⟩

/-- The proof of any path of a snapshot, whether it holds a value or not. -/
def proof (s : Snapshot) : StateProof := ⟨s.encode⟩

end Snapshot

end Crosschain
