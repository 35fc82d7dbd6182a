import Crosschain.Time.Span
import Crosschain.Toml.Document

/-!
# Parameters of a host

A host sets one parameter: the time it grants the other chain to move along an upgrade when the
proposal names no deadline. Parameters are read from JSON and from settings documents.
-/

namespace Crosschain

structure Params where
  upgradeTimeout : Span
  deriving DecidableEq, Repr

namespace Params

/-- Ten minutes. -/
def default : Params := ⟨Span.ofSecs 600⟩

instance : Inhabited Params := ⟨default⟩

def fieldName : String := "upgrade_timeout"

def toJson (p : Params) : Json := .obj [(fieldName, .str p.upgradeTimeout.text)]

inductive LoadError
  | unreadable
  | malformed
  deriving DecidableEq, Repr

/-- What reading parameters yields. A span that breaks the computation breaks the reading. -/
abbrev Loaded : Type := Except (Fault LoadError) Params

def malformed : Loaded := .error (.refused .malformed)

/-- The parameters with the span a text spells. -/
def ofSpanText (s : String) : Loaded :=
  match Span.ofText s with
  | .ok span => .ok ⟨span⟩
  | .error f => .error (f.map fun _ => .malformed)

/-! ### JSON documents -/

def ofValue (j : Json) : Loaded :=
  match j.asText? with
  | some s => ofSpanText s
  | none => malformed

/-- Reads the field, which may be missing; no other is allowed. -/
def ofJson : Json → Loaded
  | .array [] => .ok default
  | .array [j] => ofValue j
  | .object [] => .ok default
  | .object [(some k, j)] => if k = fieldName then ofValue j else malformed
  | _ => malformed

/-- The string literal in front, and what follows it. -/
def leadingString? (cs : List Char) : Option (String × List Char) :=
  match Json.Reader.skipSpace cs with
  | '"' :: r =>
    match Json.Reader.stringBody r with
    | some (some s, r) => some (s, r)
    | _ => none
  | _ => none

/-- The text of the field, if a document begins with it. -/
def leadingField? (cs : List Char) : Option String :=
  match Json.Reader.skipSpace cs with
  | '[' :: r => (leadingString? r).map Prod.fst
  | '\x7b' :: r => do
    let (k, r) ← leadingString? r
    match Json.Reader.skipSpace r with
    | ':' :: r => if k = fieldName then (leadingString? r).map Prod.fst else none
    | _ => none
  | _ => none

/-- Reads a JSON document. The field it begins with is read before what follows, so a span that
breaks the computation does so whatever follows. -/
def ofJsonText (s : String) : Loaded :=
  match (leadingField? s.toList).map ofSpanText with
  | some (.error .overflow) => .error .overflow
  | _ =>
    match Json.parse? s with
    | some j => ofJson j
    | none => malformed

/-! ### Settings documents -/

/-- Reads a settings document that sets the one parameter or nothing. Entries are read in order once
the whole document is known to be well formed. -/
def ofDocument (s : String) : Loaded :=
  match Toml.entries? s with
  | some [] => .ok default
  | some ((k, .text t) :: rest) => do
    Fault.ensure (k = fieldName) .malformed
    let p ← ofSpanText t
    Fault.ensure rest.isEmpty .malformed
    pure p
  | _ => malformed

/-- Reads the document a file holds, which is none for a file that cannot be read. -/
def ofFile (content : Option String) : Loaded :=
  match content with
  | some s => ofDocument s
  | none => .error (.refused .unreadable)

end Params

end Crosschain
