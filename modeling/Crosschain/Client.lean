import Crosschain.Snapshot
import Crosschain.Time.Timestamp

/-!
# Light clients

A chain follows another one by a light client: it learns headers, keeps the consensus state of each
height it has learnt of, and checks proofs against their roots. A client may be frozen.
-/

namespace Crosschain

/-! ### Errors -/

/-- What can go wrong with a client or a proof it checks. -/
inductive ClientError
  | notFound (id : ClientId)
  | noConsensus (id : ClientId) (height : Height)
  | frozen (id : ClientId)
  | badHeight (cause : Height.Error)
  | badProof
  | otherRoot
  | notCommitted (key : String)
  | committed (key : String)
  deriving DecidableEq, Repr

instance : Explains ClientError where
  lines
    | .notFound id => ["client not found: " ++ id.text]
    | .noConsensus id h =>
      ["consensus state not found at: " ++ id.text ++ " at height " ++ h.text]
    | .frozen id => ["the client " ++ id.text ++ " is frozen"]
    | .badHeight e => Explains.lines e
    | .badProof => ["the proof could not be decoded"]
    | .otherRoot => ["the proof does not open to the expected commitment root"]
    | .notCommitted key =>
      ["the value committed at path " ++ key ++ " does not match the expected value"]
    | .committed key =>
      ["a value is committed at path " ++ key ++ " although it was expected to be absent"]

/-! ### Checking proofs -/

namespace StateProof

variable [Digest]

/-- The snapshot a proof spells, if it is what the root commits to. -/
def opened (p : StateProof) (root : StateRoot) : Except ClientError Snapshot :=
  if Digest.hash p.bytes ≠ root.bytes then .error .otherRoot
  else match Snapshot.decode? p.bytes with
    | some s => .ok s
    | none => .error .badProof

/-- Checks that the root commits to a value under the key of a path. -/
def showsValue (p : StateProof) (root : StateRoot) (label : StorePrefix) (path : Path)
    (value : Bytes) : Except ClientError Unit := do
  let s ← p.opened root
  if s.get? (label.key path) = some value then .ok () else .error (.notCommitted (label.key path))

/-- Checks that the root commits to nothing under the key of a path. -/
def showsAbsence (p : StateProof) (root : StateRoot) (label : StorePrefix) (path : Path) :
    Except ClientError Unit := do
  let s ← p.opened root
  if s.get? (label.key path) = none then .ok () else .error (.committed (label.key path))

end StateProof

/-! ### What a client knows -/

/-- How far a client has followed the other chain, and at what height it was frozen. -/
structure ClientState where
  latestHeight : Height
  frozenHeight : Option Height
  deriving DecidableEq, Repr

namespace ClientState

def ofHeight (h : Height) : ClientState := ⟨h, none⟩

def isFrozen (s : ClientState) : Bool := s.frozenHeight.isSome

def freezeAt (s : ClientState) (h : Height) : ClientState := { s with frozenHeight := some h }

def toJson (s : ClientState) : Json :=
  .obj [("latest_height", s.latestHeight.toJson),
    ("frozen_height", .option Height.toJson s.frozenHeight)]

def ofJson? (j : Json) : Option ClientState := do
  match ← j.fields? ["latest_height", "frozen_height"] with
  | [some latest, frozen] =>
    pure ⟨← Height.ofJson? latest, ← Json.optionalField? Height.ofJson? frozen⟩
  | _ => none

end ClientState

/-- What the other chain committed to at a height, and when. -/
structure ConsensusState where
  root : StateRoot
  timestamp : Timestamp
  deriving DecidableEq, Repr

namespace ConsensusState

def toJson (s : ConsensusState) : Json :=
  .obj [("root", s.root.toJson), ("timestamp", s.timestamp.toJson)]

def ofJson? (j : Json) : Option ConsensusState := do
  match ← j.fields? ["root", "timestamp"] with
  | [some root, some timestamp] =>
    pure ⟨← StateRoot.ofJson? root, ← Timestamp.ofJson? timestamp⟩
  | _ => none

end ConsensusState

/-- What a client learns of a block. -/
structure Header where
  height : Height
  timestamp : Timestamp
  root : StateRoot
  deriving DecidableEq, Repr

namespace Header

def consensus (h : Header) : ConsensusState := ⟨h.root, h.timestamp⟩

def toJson (h : Header) : Json :=
  .obj [("height", h.height.toJson), ("timestamp", h.timestamp.toJson), ("root", h.root.toJson)]

def ofJson? (j : Json) : Option Header := do
  match ← j.fields? ["height", "timestamp", "root"] with
  | [some height, some timestamp, some root] =>
    pure ⟨← Height.ofJson? height, ← Timestamp.ofJson? timestamp, ← StateRoot.ofJson? root⟩
  | _ => none

end Header

/-- A client: its state, and the consensus states of the heights it has learnt of. -/
structure Client where
  state : ClientState
  consensus : Map Height ConsensusState

namespace Client

/-- A client that knows one header. -/
def ofHeader (h : Header) : Client := ⟨.ofHeight h.height, (∅ : Map _ _).insert h.height h.consensus⟩

/-- The client after one more header. -/
def learn (c : Client) (h : Header) : Client :=
  { -- An older header does not move the latest height.
    state :=
      if c.state.latestHeight < h.height then { c.state with latestHeight := h.height }
      else c.state
    consensus := c.consensus.insert h.height h.consensus }

def freeze (c : Client) : Client := { c with state := c.state.freezeAt c.state.latestHeight }

end Client

end Crosschain
