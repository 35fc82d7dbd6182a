/-!
# Days of the calendar

The proleptic Gregorian calendar: a date and the number of its day, counted from 1 January 1970.
Days are counted in cycles of 400 years that start on 1 March, so that the leap day is the last
day of a year.
-/

namespace Crosschain

structure Date where
  year : Int
  month : Nat
  day : Nat
  deriving DecidableEq, Repr

namespace Date

/-- The days of a cycle of 400 years. -/
def cycle : Int := 146097

/-- The day number of 1 March of the year 0, with its sign turned. -/
def shift : Int := 719468

/-- Every fourth year, but of the full hundreds only every fourth. -/
def isLeap (year : Int) : Bool := year % 4 = 0 && (year % 100 ≠ 0 || year % 400 = 0)

def monthLength (year : Int) (month : Nat) : Nat :=
  match month with
  | 2 => if isLeap year then 29 else 28
  | 4 | 6 | 9 | 11 => 30
  | _ => 31

def isValid (d : Date) : Bool :=
  1 ≤ d.month && d.month ≤ 12 && 1 ≤ d.day && d.day ≤ monthLength d.year d.month

def toDays (d : Date) : Int :=
  let year := if d.month ≤ 2 then d.year - 1 else d.year
  let fromMarch : Int := (d.month + 9 : Nat) % 12
  let ofCycle := year % 400
  let ofYear := (153 * fromMarch + 2) / 5 + d.day - 1
  year / 400 * cycle + (365 * ofCycle + ofCycle / 4 - ofCycle / 100 + ofYear) - shift

def ofDays (days : Int) : Date :=
  let z := days + shift
  let ofCycle := z % cycle
  let year := (ofCycle - ofCycle / 1460 + ofCycle / 36524 - ofCycle / 146096) / 365
  let ofYear := ofCycle - (365 * year + year / 4 - year / 100)
  let fromMarch := (5 * ofYear + 2) / 153
  let day := ofYear - (153 * fromMarch + 2) / 5 + 1
  let month := if fromMarch < 10 then fromMarch + 3 else fromMarch - 9
  ⟨z / cycle * 400 + year + (if month ≤ 2 then 1 else 0), month.toNat, day.toNat⟩

/-- The years dates are kept for. -/
def yearInRange (year : Int) : Bool := -262143 ≤ year && year ≤ 262142

end Date

end Crosschain
