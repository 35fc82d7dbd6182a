import Crosschain.Height
import Crosschain.Text.Quoted

/-!
# Identifiers

Clients, connections, ports and channels have identifiers: texts of letters, digits and a few
marks, whose length in bytes lies between bounds of their kind. Identifiers of different kinds are
different types. A port and a channel together name a channel end.
-/

namespace Crosschain

/-- What an identifier names. -/
inductive IdKind
  | client
  | connection
  | port
  | channel
  deriving DecidableEq, Repr

/-- The identifier of a thing of kind `k`. -/
structure Identifier (k : IdKind) where
  text : String
  deriving DecidableEq, Repr

abbrev ClientId := Identifier .client

abbrev ConnectionId := Identifier .connection

abbrev PortId := Identifier .port

abbrev ChannelId := Identifier .channel

namespace Identifier

variable {k : IdKind}

/-- Identifiers are ordered as their texts. -/
instance : Ord (Identifier k) := ⟨compareOn Identifier.text⟩

instance : Std.TransOrd (Identifier k) :=
  inferInstanceAs (Std.TransCmp (compareOn Identifier.text))

instance : Std.LawfulEqOrd (Identifier k) where
  eq_of_compare {a b} h := by
    cases a; cases b
    exact congrArg _ (Map.eq_of_compareOn h)

/-! ### The rules for texts -/

inductive Error
  | separator (id : String)
  | badLength (id : String) (length min max : UInt64)
  | badCharacter (id : String)
  | empty
  deriving DecidableEq, Repr

instance : Explains Error where
  lines
    | .separator id => ["identifier " ++ id ++ " cannot contain separator '/'"]
    | .badLength id length min max =>
      ["identifier " ++ id ++ " has invalid length " ++ Word.text length ++ " must be between "
        ++ Word.text min ++ "-" ++ Word.text max ++ " characters"]
    | .badCharacter id =>
      ["identifier " ++ id ++ " must only contain alphanumeric characters or `.`, `_`, `+`, `-`, "
        ++ "`#`, - `[`, `]`, `<`, `>`"]
    | .empty => ["identifier cannot be empty"]

/-- The marks an identifier may hold besides letters and digits. -/
def marks : List Char := ['.', '_', '+', '-', '#', '[', ']', '<', '>']

def allows (c : Char) : Bool := Text.isAlphanumeric c || marks.contains c

/-- Checks a text against bounds on its bytes: it has to hold something, no separator of paths, as
many bytes as the bounds ask, and only characters that are allowed. -/
def check (s : String) (min max : UInt64) : Except Error Unit :=
  let length := UInt64.ofNat s.utf8ByteSize
  if s.isEmpty then .error .empty
  else if s.toList.contains '/' then .error (.separator s)
  else if length < min ∨ max < length then .error (.badLength s length min max)
  else if s.toList.all allows then .ok ()
  else .error (.badCharacter s)

/-- Checks a text against bounds that are in order; there is no answer for others. -/
def check? (s : String) (min max : UInt64) : Option (Except Error Unit) :=
  if min ≤ max then some (check s min max) else none

/-- The least number of bytes of an identifier. -/
def minLength : IdKind → UInt64
  | .client => 9
  | .connection => 10
  | .port => 2
  | .channel => 8

/-- The greatest number of bytes of an identifier. -/
def maxLength : IdKind → UInt64
  | .port => 128
  | _ => 64

/-- The identifier of kind `k` with the given text, if the text keeps the rules. -/
def ofText (k : IdKind) (s : String) : Except Error (Identifier k) :=
  (check s (minLength k) (maxLength k)).map fun _ => ⟨s⟩

def bytes (i : Identifier k) : Bytes := Bytes.ofText i.text

/-! ### Identifiers made from a counter -/

def client (type : String) (n : UInt64) : Except Error ClientId :=
  ofText .client (type ++ "-" ++ Word.text n)

/-- A connection is named by a counter. -/
def connection (n : UInt64) : ConnectionId := ⟨"connection-" ++ Word.text n⟩

def channel (n : UInt64) : ChannelId := ⟨"channel-" ++ Word.text n⟩

/-- The port of token transfers. -/
def transferPort : PortId := ⟨"transfer"⟩

/-- The identifier of each kind that stands where none is given. -/
def default : (k : IdKind) → Identifier k
  | .client => ⟨"9999-mock-0"⟩
  | .connection => connection 0
  | .port => ⟨"defaultPort"⟩
  | .channel => channel 0

instance : Inhabited (Identifier k) := ⟨default k⟩

/-! ### Text and JSON -/

def typeName : IdKind → String
  | .client => "ClientId"
  | .connection => "ConnectionId"
  | .port => "PortId"
  | .channel => "ChannelId"

/-- The identifier written out with the name of its type. -/
def debugText (i : Identifier k) : String := typeName k ++ "(" ++ Text.quote i.text ++ ")"

def debugList (l : List (Identifier k)) : String :=
  "[" ++ ", ".intercalate (l.map debugText) ++ "]"

def toJson (i : Identifier k) : Json := .str i.text

/-- Reads any text as an identifier; the rules are not checked here. -/
def ofJson? (j : Json) : Option (Identifier k) := j.asText?.map Identifier.mk

end Identifier

/-! ### Channel ends -/

/-- The name of a channel end: the port it is bound to and its channel. -/
structure EndId where
  port : PortId
  channel : ChannelId
  deriving DecidableEq, Repr, Inhabited

namespace EndId

instance : Ord EndId := ⟨compareLex (compareOn EndId.port) (compareOn EndId.channel)⟩

instance : Std.TransOrd EndId :=
  inferInstanceAs (Std.TransCmp (compareLex (compareOn EndId.port) (compareOn EndId.channel)))

instance : Std.LawfulEqOrd EndId where
  eq_of_compare {a b} h := by
    cases a; cases b
    obtain ⟨h1, h2⟩ := Map.eq_of_compareLex h
    exact EndId.mk.injEq .. ▸ ⟨h1, h2⟩

def text (e : EndId) : String := e.port.text ++ "/" ++ e.channel.text

/-- The fields of the name, the channel first. -/
def toJson (e : EndId) : Json :=
  .obj [("channel_id", e.channel.toJson), ("port_id", e.port.toJson)]

def ofJson? (j : Json) : Option EndId := do
  match ← j.fields? ["channel_id", "port_id"] with
  | [some c, some p] => pure ⟨← Identifier.ofJson? p, ← Identifier.ofJson? c⟩
  | _ => none

end EndId

/-! ### Packets of an end -/

structure Slot where
  owner : EndId
  sequence : Sequence
  deriving DecidableEq, Repr

namespace Slot

instance : Ord Slot := ⟨compareLex (compareOn Slot.owner) (compareOn Slot.sequence)⟩

instance : Std.TransOrd Slot :=
  inferInstanceAs (Std.TransCmp (compareLex (compareOn Slot.owner) (compareOn Slot.sequence)))

instance : Std.LawfulEqOrd Slot where
  eq_of_compare {a b} h := by
    cases a; cases b
    obtain ⟨h1, h2⟩ := Map.eq_of_compareLex h
    exact Slot.mk.injEq .. ▸ ⟨h1, h2⟩

end Slot

end Crosschain
