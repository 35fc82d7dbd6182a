import Crosschain.Bytes

/-!
# JSON values

The tree of a JSON document, and the builders that the printed forms of the library's values use.
A string literal may hold an escape of half a surrogate pair, which spells no text: such a literal
is a value without a text, to be skipped where no text is needed.
-/

namespace Crosschain

/-- A JSON value. Members keep their order and may repeat a name. -/
inductive Json
  | null
  | bool (b : Bool)
  /-- A number of plain digits. -/
  | nat (n : Nat)
  /-- A number with a sign, a fraction or an exponent, as it is spelled. -/
  | number (spelling : String)
  /-- A string literal, with the text it spells. -/
  | text (s : Option String)
  | array (items : List Json)
  | object (members : List (Option String × Json))
  deriving Inhabited

namespace Json

variable {α : Type}

def str (s : String) : Json := .text (some s)

/-- A number that fits 64 bits. -/
def word (w : UInt64) : Json := .nat w.toNat

def obj (members : List (String × Json)) : Json := .object (members.map fun m => (some m.1, m.2))

def list (f : α → Json) (l : List α) : Json := .array (l.map f)

/-- A value, or `null` where there is none. -/
def option (f : α → Json) (o : Option α) : Json :=
  match o with
  | some a => f a
  | none => .null

def bytes (bs : Bytes) : Json := list (fun b => .nat b.toNat) bs

end Json

end Crosschain
