import Crosschain.Json.Shape
import Crosschain.Time.Instant
import Crosschain.Time.Span
import Crosschain.Word

/-!
# Timestamps

The time of a chain, or of a timeout. A timestamp may be unset: an unset timeout never elapses, and
an unset chain time reaches no timeout. On the wire a timestamp is a number of nanoseconds since
1970, where zero stands for unset.
-/

namespace Crosschain

/-- A point in time, or none. -/
structure Timestamp where
  time : Option Instant
  deriving DecidableEq, Repr

namespace Timestamp

def unset : Timestamp := ⟨none⟩

def isSet (t : Timestamp) : Bool := t.time.isSome

def ofNanoseconds (n : UInt64) : Timestamp :=
  if n = 0 then unset
  else ⟨some ⟨(n.toNat / Instant.perSecond : Nat), n.toNat % Instant.perSecond⟩⟩

/-- The nanoseconds since 1970, zero when unset. -/
def nanoseconds (t : Timestamp) : Nat :=
  match t.time with
  | none => 0
  -- Seconds before 1970 do not count.
  | some i => i.secs.toNat * Instant.perSecond + i.nanos

def nanoseconds? (t : Timestamp) : Option UInt64 := Word.ofNat? t.nanoseconds

/-- An unset timestamp comes before all others. -/
instance : Ord Timestamp where
  compare a b :=
    match a.time, b.time with
    | none, none => .eq
    | none, some _ => .lt
    | some _, none => .gt
    | some a, some b => compare a b

/-- Whether both are set and the first is strictly later. -/
def after (a b : Timestamp) : Bool :=
  match a.time, b.time with
  | some a, some b => (compare a b).isGT
  | _, _ => false

/-- Whether a timeout is reached when the time of the chain is `now`. -/
def reachedAt (timeout now : Timestamp) : Bool := timeout.isSet && now.isSet && !timeout.after now

/-! ### Adding a span -/

/-- The sum lies beyond the years dates are kept for. -/
inductive Overflow
  | outOfRange
  deriving DecidableEq, Repr

instance : Explains Overflow where
  lines _ := ["timestamp overflow when adding a duration"]

def later (i : Instant) (s : Span) : Instant :=
  let nanos := i.nanos + s.nanos.toNat
  ⟨i.secs + s.secs.toNat + (nanos / Instant.perSecond : Nat), nanos % Instant.perSecond⟩

/-- The timestamp a span later; an unset timestamp stays unset. -/
def add (t : Timestamp) (s : Span) : Except Overflow Timestamp :=
  match t.time with
  | none => .ok t
  | some i => if (later i s).inRange then .ok ⟨some (later i s)⟩ else .error .outOfRange

/-! ### Text -/

def text (t : Timestamp) : String :=
  match t.time with
  | some i => "Timestamp(" ++ i.offsetText ++ ")"
  | none => "Timestamp(NoTimestamp)"

def debugText (t : Timestamp) : String :=
  let time := match t.time with
    | some i => "Some(" ++ i.zuluText ++ ")"
    | none => "None"
  "Timestamp \x7b time: " ++ time ++ " \x7d"

inductive ParseError
  | badWord (cause : Word.DecimalError)
  deriving DecidableEq, Repr

instance : Explains ParseError where
  lines
    | .badWord e => "error parsing u64 integer from string" :: Explains.lines e

/-- The number of nanoseconds a text spells, as a timestamp. -/
def ofText (s : String) : Except ParseError Timestamp :=
  ((Word.ofText s).mapError .badWord).map ofNanoseconds

def toJson (t : Timestamp) : Json := .obj [("time", .option (fun i => .str i.zuluText) t.time)]

def ofJson? (j : Json) : Option Timestamp := do
  match ← j.fields? ["time"] with
  | [time] => pure ⟨← Json.optionalField? (fun j => j.asText?.bind Instant.ofText?) time⟩
  | _ => none

end Timestamp

end Crosschain
