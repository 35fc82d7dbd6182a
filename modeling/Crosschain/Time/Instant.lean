import Crosschain.Text.Blank
import Crosschain.Time.Calendar

/-!
# Instants

An instant is a number of seconds since 1 January 1970, UTC, and nanoseconds within the second. A
leap second is the second before it with nanoseconds from one billion on. The text of an instant
is that of RFC 3339 with as many places of the second as it needs: none, three, six or nine.
-/

namespace Crosschain

structure Instant where
  secs : Int
  nanos : Nat
  deriving DecidableEq, Repr

namespace Instant

def perSecond : Nat := 1000000000

def perDay : Int := 86400

instance : Ord Instant := ⟨fun a b => (compare a.secs b.secs).then (compare a.nanos b.nanos)⟩

def date (i : Instant) : Date := Date.ofDays (i.secs / perDay)

def inRange (i : Instant) : Bool := Date.yearInRange i.date.year

/-! ### Text -/

/-- A number with leading zeros up to the given width. -/
def padded (width n : Nat) : String :=
  String.ofList (List.replicate (width - n.repr.length) '0') ++ n.repr

/-- A year of four digits; one that needs more, or a sign, is written with its sign. -/
def yearText (year : Int) : String :=
  if 0 ≤ year ∧ year ≤ 9999 then padded 4 year.toNat
  else (if year < 0 then "-" else "+") ++ padded 4 year.natAbs

/-- The places of a second: none, three, six or nine. -/
def fractionText (nanos : Nat) : String :=
  if nanos = 0 then ""
  else if nanos % 1000000 = 0 then "." ++ padded 3 (nanos / 1000000)
  else if nanos % 1000 = 0 then "." ++ padded 6 (nanos / 1000)
  else "." ++ padded 9 nanos

/-- Date and time of day in UTC, behind which a mark of the zone is to follow. -/
def localText (i : Instant) : String :=
  let d := i.date
  let ofDay := (i.secs % perDay).toNat
  let leap := if perSecond ≤ i.nanos then 1 else 0
  yearText d.year ++ "-" ++ padded 2 d.month ++ "-" ++ padded 2 d.day ++ "T"
    ++ padded 2 (ofDay / 3600) ++ ":" ++ padded 2 (ofDay / 60 % 60) ++ ":"
    ++ padded 2 (ofDay % 60 + leap) ++ fractionText (i.nanos % perSecond)

def zuluText (i : Instant) : String := i.localText ++ "Z"

def offsetText (i : Instant) : String := i.localText ++ "+00:00"

/-! ### Reading -/

namespace Reader

/-- Decimal digits in front, at most `limit` of them but at least one, and the rest. -/
def number? (limit : Nat) (cs : List Char) : Option (Nat × List Char) :=
  let ds := (cs.take limit).takeWhile Char.isDigit
  if ds.isEmpty then none else some (Nat.ofDigitChars 10 ds 0, cs.drop ds.length)

/-- A number behind blanks, of at most two digits and within bounds. -/
def field? (low high : Nat) (cs : List Char) : Option (Nat × List Char) := do
  let (n, r) ← number? 2 (Text.skipBlanks cs)
  if low ≤ n ∧ n ≤ high then pure (n, r) else none

/-- A year behind blanks: up to four digits, or any number of them behind a sign. -/
def year? (cs : List Char) : Option (Int × List Char) :=
  match Text.skipBlanks cs with
  | '-' :: r => (number? r.length r).map fun (n, r) => (-(n : Int), r)
  | '+' :: r => (number? r.length r).map fun (n, r) => ((n : Int), r)
  | r => (number? 4 r).map fun (n, r) => ((n : Int), r)

/-- The given mark behind blanks. -/
def mark? (c : Char) (cs : List Char) : Option (List Char) :=
  match Text.skipBlanks cs with
  | d :: r => if d = c then some r else none
  | [] => none

/-- A date with its parts joined by hyphens. -/
def date? (cs : List Char) : Option (Date × List Char) := do
  let (year, r) ← year? cs
  let r ← mark? '-' r
  let (month, r) ← field? 1 12 r
  let r ← mark? '-' r
  let (day, r) ← field? 1 31 r
  let d : Date := ⟨year, month, day⟩
  if d.isValid && Date.yearInRange year then pure (d, r) else none

/-- Places of a second behind a point, as nanoseconds: nine places, filled up with zeros; those past
the ninth are dropped. -/
def fraction? : List Char → Option (Nat × List Char)
  | '.' :: r =>
    let ds := r.takeWhile Char.isDigit
    if ds.isEmpty then none
    else
      let places := (ds ++ List.replicate 9 '0').take 9
      some (Nat.ofDigitChars 10 places 0, r.drop ds.length)
  | r => some (0, r)

/-- A time of day with its parts joined by colons: seconds and nanoseconds. Second sixty is a leap
second. -/
def time? (cs : List Char) : Option (Int × Nat × List Char) := do
  let (hour, r) ← field? 0 23 cs
  let r ← mark? ':' r
  let (minute, r) ← field? 0 59 r
  let r ← mark? ':' r
  let (second, r) ← field? 0 60 r
  let (nanos, r) ← fraction? r
  let ofMinute := if second = 60 then 59 else second
  let leap := if second = 60 then perSecond else 0
  pure (((hour * 60 + minute) * 60 + ofMinute : Nat), leap + nanos, r)

/-- Two digits, the first of which is below `bound`. -/
def twoDigits? (bound : Nat) : List Char → Option (Nat × List Char)
  | a :: b :: r => do
    let x ← if a.isDigit then some (a.toNat - 48) else none
    let y ← if b.isDigit then some (b.toNat - 48) else none
    if x < bound then pure (10 * x + y, r) else none
  | _ => none

/-- An offset of hours and minutes below a day, in seconds; colons and blanks may part the two. -/
def signedOffset? (negative : Bool) (cs : List Char) : Option (Int × List Char) := do
  let (hours, r) ← twoDigits? 10 cs
  let (minutes, r) ← twoDigits? 6 (r.dropWhile fun c => c == ':' || Text.isBlank c)
  let secs : Int := (hours * 60 + minutes) * 60
  if secs < perDay then pure (if negative then -secs else secs, r) else none

/-- The zone behind blanks: a letter or a name for UTC, or an offset. -/
def zone? (cs : List Char) : Option (Int × List Char) :=
  match Text.skipBlanks cs with
  | 'Z' :: r => some (0, r)
  | 'z' :: r => some (0, r)
  | '+' :: r => signedOffset? false r
  | '-' :: r => signedOffset? true r
  | '\u2212' :: r => signedOffset? true r
  | u :: t :: c :: r =>
    if u.toUpper = 'U' ∧ t.toUpper = 'T' ∧ c.toUpper = 'C' then some (0, r) else none
  | _ => none

/-- Date and time parted by the letter T or a space, then the zone; the instant has to lie in the
years dates are kept for. -/
def instant? (cs : List Char) : Option Instant := do
  let (d, r) ← date? cs
  let r ← match r with
    | 'T' :: r => some r
    | 't' :: r => some r
    | ' ' :: r => some r
    | _ => none
  let (secs, nanos, r) ← time? r
  let (offset, r) ← zone? r
  let i : Instant := ⟨d.toDays * perDay + secs - offset, nanos⟩
  if (Text.skipBlanks r).isEmpty && i.inRange then pure i else none

end Reader

def ofText? (s : String) : Option Instant := Reader.instant? s.toList

end Instant

end Crosschain
