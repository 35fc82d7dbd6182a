import Crosschain.Json.Shape
import Crosschain.Text.Blank
import Crosschain.Word

/-!
# Spans of time

A span is a number of whole seconds and the nanoseconds of one more. Its text is a list of amounts
with units, the largest unit first, where a month is 30.44 days and a year 365.25 days. A text that
is read may have its amounts in any order, repeat units and give fractions, as long as each comes to
a whole number of the unit it is counted in.
-/

namespace Crosschain

/-- A length of time. -/
structure Span where
  secs : UInt64
  nanos : UInt32
  deriving DecidableEq, Repr

namespace Span

def zero : Span := ⟨0, 0⟩

def ofSecs (secs : UInt64) : Span := ⟨secs, 0⟩

def totalNanos (s : Span) : Nat := s.secs.toNat * 1000000000 + s.nanos.toNat

/-- The span of so many nanoseconds, if its seconds fit 64 bits. -/
def ofNanos? (n : Nat) : Option Span :=
  if n / 1000000000 < UInt64.size then
    some ⟨UInt64.ofNat (n / 1000000000), UInt32.ofNat (n % 1000000000)⟩
  else none

/-! ### Text -/

/-- The units of the written form: name, size in nanoseconds, and whether the name takes an `s` for
more than one. -/
def writtenUnits : List (String × Nat × Bool) :=
  [("year", 31557600000000000, true), ("month", 2630016000000000, true),
    ("day", 86400000000000, true), ("h", 3600000000000, false), ("m", 60000000000, false),
    ("s", 1000000000, false), ("ms", 1000000, false), ("us", 1000, false), ("ns", 1, false)]

/-- The amounts of a number of nanoseconds in the given units, none of them zero. -/
def amounts : List (String × Nat × Bool) → Nat → List String
  | [], _ => []
  | (name, size, plural) :: units, n =>
    let q := n / size
    let rest := amounts units (n % size)
    if q = 0 then rest else (q.repr ++ name ++ (if plural && 1 < q then "s" else "")) :: rest

def text (s : Span) : String :=
  if s.totalNanos = 0 then "0s" else " ".intercalate (amounts writtenUnits s.totalNanos)

/-! ### Reading -/

inductive ParseError
  | malformed
  deriving DecidableEq, Repr

namespace Reader

abbrev Reading (α : Type) : Type := Except (Fault ParseError) α

def refused {α : Type} : Reading α := .error (.refused .malformed)

/-- A number, refused unless it fits 64 bits. -/
def fit (n : Nat) : Reading UInt64 := Fault.require (Word.ofNat? n) .malformed

/-- How a unit is counted: seconds and nanoseconds, one of which is zero. -/
structure Measure where
  secs : Nat
  nanos : Nat
  deriving DecidableEq, Repr

def seconds (n : Nat) : Measure := ⟨n, 0⟩

def nanoseconds (n : Nat) : Measure := ⟨0, n⟩

/-- A unit: the measure of its whole amounts, and that of its fractions if it may have any. -/
structure TimeUnit where
  whole : Measure
  fraction : Option Measure
  deriving DecidableEq, Repr

/-- A unit whose fractions are counted as its whole amounts are. -/
def evenly (m : Measure) : TimeUnit := ⟨m, some m⟩

def unit? (name : String) : Option TimeUnit :=
  match name with
  | "nanos" | "nsec" | "ns" => some ⟨nanoseconds 1, none⟩
  | "usec" | "us" | "µs" => some (evenly (nanoseconds 1000))
  | "millis" | "msec" | "ms" => some (evenly (nanoseconds 1000000))
  | "seconds" | "second" | "secs" | "sec" | "s" => some ⟨seconds 1, some (nanoseconds 1000000000)⟩
  | "minutes" | "minute" | "min" | "mins" | "m" => some ⟨seconds 60, some (nanoseconds 60000000000)⟩
  | "hours" | "hour" | "hr" | "hrs" | "h" => some (evenly (seconds 3600))
  | "days" | "day" | "d" => some (evenly (seconds 86400))
  | "weeks" | "week" | "wk" | "wks" | "w" => some (evenly (seconds 604800))
  | "months" | "month" | "M" => some (evenly (seconds 2630016))
  | "years" | "year" | "yr" | "yrs" | "y" => some (evenly (seconds 31557600))
  | _ => none

/-- An amount: a whole part and a fraction, the latter as the number its places spell and a power of
ten, none for an amount without a point. -/
structure Amount where
  whole : UInt64
  fraction : Option (UInt64 × UInt64)

/-- A total with seconds and nanoseconds on top. Whole seconds among the nanoseconds count towards
the check of the seconds; one that comes out exactly is carried after the check, and where there is
no room for it the computation breaks. -/
def plus (total : Span) (secs nanos : UInt64) : Reading Span := do
  let n := (← fit (total.nanos.toNat + nanos.toNat)).toNat
  if n = 1000000000 then
    let s ← fit (total.secs.toNat + secs.toNat)
    let s ← Fault.checked (Word.add? s 1)
    pure ⟨s, 0⟩
  else
    let s ← fit (total.secs.toNat + secs.toNat + n / 1000000000)
    pure ⟨s, UInt32.ofNat (n % 1000000000)⟩

/-- A total with so many of a measure on top, divided by a power of ten that leaves no remainder. -/
def plusMeasure (total : Span) (n power : UInt64) (m : Measure) : Reading Span := do
  let secs ← fit (n.toNat * m.secs)
  let nanos ← fit (n.toNat * m.nanos)
  Fault.ensure (secs % power = 0 ∧ nanos % power = 0) .malformed
  plus total (secs / power) (nanos / power)

/-- A total with an amount of the unit whose letters are given, last first, on top: the whole part,
then the fraction. -/
def plusAmount (total : Span) (a : Amount) (letters : List Char) : Reading Span := do
  let u ← Fault.require (unit? (String.ofList letters.reverse)) .malformed
  let total ← plusMeasure total a.whole 1 u.whole
  match a.fraction with
  | none => pure total
  | some (places, power) =>
    let m ← Fault.require u.fraction .malformed
    plusMeasure total places power m

/-- Letters of unit names. -/
def isUnitLetter (c : Char) : Bool := c.isAlpha || c == 'µ'

def digitValue (c : Char) : Nat := c.toNat - 48

def withDigit (n : UInt64) (c : Char) : Reading UInt64 := fit (n.toNat * 10 + digitValue c)

/-- Where a reader stands: before an amount, in its whole part, in its fraction, or in the letters
of its unit, which are kept last first. -/
inductive Place
  | before (first : Bool)
  | whole (n : UInt64)
  | fraction (n places power : UInt64)
  | unit (a : Amount) (letters : List Char)

def Place.ofDigit (c : Char) : Place := .whole (UInt64.ofNat (digitValue c))

/-- Reads on from a place with a total so far. Blanks may stand anywhere but inside a unit, which
the next digit or blank ends. -/
def read : Place → Span → List Char → Reading Span
  | .before first, total, [] => if first then refused else pure total
  | .whole _, _, [] => refused
  | .fraction _ _ _, _, [] => refused
  | .unit a letters, total, [] => plusAmount total a letters
  | .before first, total, c :: r =>
    if c.isDigit then read (.ofDigit c) total r
    else if Text.isBlank c then read (.before first) total r
    else refused
  | .whole n, total, c :: r =>
    if c.isDigit then do
      let n ← withDigit n c
      read (.whole n) total r
    else if Text.isBlank c then read (.whole n) total r
    else if isUnitLetter c then read (.unit ⟨n, none⟩ [c]) total r
    else if c = '.' then read (.fraction n 0 1) total r
    else refused
  | .fraction n places power, total, c :: r =>
    if c.isDigit then do
      let power ← withDigit power '0'
      let places ← withDigit places c
      read (.fraction n places power) total r
    else if Text.isBlank c then read (.fraction n places power) total r
    else if isUnitLetter c ∧ power ≠ 1 then read (.unit ⟨n, some (places, power)⟩ [c]) total r
    else refused
  | .unit a letters, total, c :: r =>
    if c.isDigit then do
      let total ← plusAmount total a letters
      read (.ofDigit c) total r
    else if Text.isBlank c then do
      let total ← plusAmount total a letters
      read (.before false) total r
    else if isUnitLetter c then read (.unit a (c :: letters)) total r
    else refused

end Reader

/-- The span a text spells; a lone zero needs no unit. -/
def ofText (s : String) : Except (Fault ParseError) Span :=
  if s = "0" then .ok zero else Reader.read (.before true) zero s.toList

/-! ### JSON -/

def toJson (s : Span) : Json := .obj [("secs", .word s.secs), ("nanos", .nat s.nanos.toNat)]

def hasOnly (names : List String) : Json → Bool
  | .object members => members.all fun m => names.any fun n => m.1 == some n
  | _ => true

/-- Reads the parts of a span; nanoseconds of a second and more carry over, and no other member is
allowed. -/
def ofJson? (j : Json) : Option Span := do
  if hasOnly ["secs", "nanos"] j then
    match ← j.fields? ["secs", "nanos"] with
    | [some secs, some nanos] =>
      let secs ← secs.asWord?
      let nanos ← nanos.asWord?
      if nanos.toNat < UInt32.size then
        ofNanos? (secs.toNat * 1000000000 + nanos.toNat)
      else none
    | _ => none
  else none

end Span

end Crosschain
