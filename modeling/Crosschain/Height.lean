import Crosschain.Json.Shape
import Crosschain.Map
import Crosschain.Word

/-!
# Heights and sequences

The height of a block counts within a revision of its chain, and a higher revision is above every
height of a lower one. Packets and upgrades are numbered by sequences. Both are built from 64-bit
words whose sums are checked.
-/

namespace Crosschain

/-- The number of a packet on its channel, or of an upgrade attempt. -/
abbrev Sequence := UInt64

structure Height where
  revision : UInt64
  height : UInt64
  deriving DecidableEq, Repr, Inhabited

namespace Height

/-- Revisions first, then heights. -/
instance : Ord Height := ⟨compareLex (compareOn Height.revision) (compareOn Height.height)⟩

instance : Std.TransOrd Height :=
  inferInstanceAs (Std.TransCmp (compareLex (compareOn Height.revision) (compareOn Height.height)))

instance : Std.LawfulEqOrd Height where
  eq_of_compare {a b} h := by
    cases a; cases b
    obtain ⟨h1, h2⟩ := Map.eq_of_compareLex h
    exact Height.mk.injEq .. ▸ ⟨h1, h2⟩

instance : LT Height := ltOfOrd
instance : LE Height := leOfOrd

inductive Error
  | zero
  | notPositive
  deriving DecidableEq, Repr

instance : Explains Error where
  lines
    | .zero => ["height cannot end up zero or negative"]
    | .notPositive => ["height of the resulting block is not a valid height"]

/-- A height above zero in its revision. -/
def ofParts (revision height : UInt64) : Except Error Height :=
  if height = 0 then .error .zero else .ok ⟨revision, height⟩

/-- The height `delta` blocks later, if it fits 64 bits. -/
def add? (h : Height) (delta : UInt64) : Option Height :=
  (Word.add? h.height delta).map (Height.mk h.revision)

def next? (h : Height) : Option Height := h.add? 1

/-- The height `delta` blocks earlier, which has to be above zero. -/
def sub (h : Height) (delta : UInt64) : Except Error Height :=
  if h.height ≤ delta then .error .notPositive else .ok ⟨h.revision, h.height - delta⟩

def previous (h : Height) : Except Error Height := h.sub 1

/-! ### Text -/

/-- Revision and height joined by a hyphen. -/
def text (h : Height) : String := Word.text h.revision ++ "-" ++ Word.text h.height

def debugText (h : Height) : String :=
  "Height \x7b revision_number: " ++ Word.text h.revision ++ ", revision_height: "
    ++ Word.text h.height ++ " \x7d"

inductive ParseError
  | badWord (text : String) (cause : Word.DecimalError)
  | zero
  | badForm (text : String)
  deriving DecidableEq, Repr

instance : Explains ParseError where
  lines
    | .badWord s e => ("cannot convert into a `Height` type from string " ++ s) :: Explains.lines e
    | .zero => ["attempted to parse an invalid zero height"]
    | .badForm s => ["height " ++ s ++ " is not in the `\x7brevision\x7d-\x7bheight\x7d` format"]

/-- The parts of a list between the occurrences of `sep`; there is always one. -/
def splitAll (sep : Char) : List Char → List (List Char)
  | [] => [[]]
  | c :: r =>
    if c = sep then [] :: splitAll sep r
    else match splitAll sep r with
      | p :: ps => (c :: p) :: ps
      | [] => [[c]]

/-- Reads two words joined by one hyphen, the second above zero. -/
def ofText (s : String) : Except ParseError Height :=
  match splitAll '-' s.toList with
  | [r, h] => do
    let revision ← (Word.ofChars r).mapError (.badWord s)
    let height ← (Word.ofChars h).mapError (.badWord s)
    (ofParts revision height).mapError fun _ => .zero
  | _ => .error (.badForm s)

/-! ### JSON -/

def toJson (h : Height) : Json :=
  .obj [("revision_number", .word h.revision), ("revision_height", .word h.height)]

/-- Reads the two fields of a height, whatever they are. -/
def ofJson? (j : Json) : Option Height := do
  match ← j.fields? ["revision_number", "revision_height"] with
  | [some r, some h] => pure ⟨← r.asWord?, ← h.asWord?⟩
  | _ => none

end Height

end Crosschain
