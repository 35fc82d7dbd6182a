import Crosschain.Json.Reader
import Crosschain.Json.Writer

/-!
# The shapes decoders expect

A structure is an object that has each field at most once, other members being ignored, or an array
with exactly the values of its fields in order. A choice is a string that names it, or an object
with one member of that name that holds what the choice carries.
-/

namespace Crosschain.Json

variable {α : Type}

def asText? : Json → Option String
  | .text s => s
  | _ => none

/-- A number of plain digits that fits 64 bits. -/
def asWord? : Json → Option UInt64
  | .nat n => if n < UInt64.size then some (UInt64.ofNat n) else none
  | _ => none

/-- A number of plain digits that fits a byte. -/
def asByte? : Json → Option UInt8
  | .nat n => if n < UInt8.size then some (UInt8.ofNat n) else none
  | _ => none

def asList? (f : Json → Option α) : Json → Option (List α)
  | .array items => items.mapM f
  | _ => none

def asBytes? : Json → Option Bytes := asList? asByte?

def asOption? (f : Json → Option α) : Json → Option (Option α)
  | .null => some none
  | j => (f j).map some

/-- The member of the given name, none if there is none; two of the name fail. -/
def member? (members : List (Option String × Json)) (name : String) : Option (Option Json) :=
  match members.filter (fun m => m.1 == some name) with
  | [] => some none
  | [m] => some (some m.2)
  | _ => none

def fields? (names : List String) : Json → Option (List (Option Json))
  | .array items => if items.length = names.length then some (items.map some) else none
  | .object members =>
    if members.all (fun m => m.1.isSome) then names.mapM (member? members) else none
  | _ => none

def optionalField? (f : Json → Option α) (j : Option Json) : Option (Option α) :=
  match j with
  | none => some none
  | some j => asOption? f j

/-- The name of a choice, and what it carries. -/
def choice? : Json → Option (String × Option Json)
  | .text (some s) => some (s, none)
  | .object [(some k, v)] => some (k, some v)
  | _ => none

/-- A choice that carries nothing may carry `null`. -/
def carriesNothing : Option Json → Bool
  | none => true
  | some .null => true
  | _ => false

/-- The choice among named values that carry nothing. -/
def asNamed? (table : List (String × α)) (j : Json) : Option α := do
  let (name, carried) ← choice? j
  if carriesNothing carried then table.lookup name else none

end Crosschain.Json
