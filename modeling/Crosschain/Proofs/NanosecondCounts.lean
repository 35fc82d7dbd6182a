import Crosschain.Proofs.InstantTexts
import Crosschain.Proofs.Moments

/-!
# Nanoseconds in and out

A number of nanoseconds is split into signed seconds and a word of 32 bits for the rest, from which
a calendar makes an instant, and is multiplied out again in 64 bits. Nothing gets lost on the way:
the largest number lies in the year 2554, well within the dates that are kept, and the product and
the sum never leave 64 bits. Zero stands apart, for no time at all.
-/

namespace Crosschain

/-! ### Checked words -/

namespace Word

variable {a b c : UInt64} {n : Nat}

theorem ofNat?_eq_some_iff : ofNat? n = some c ↔ c.toNat = n := by
  unfold ofNat?
  split
  next fits =>
    have whole : (UInt64.ofNat n).toNat = n := UInt64.toNat_ofNat_of_lt' fits
    rw [Option.some.injEq, ← UInt64.toNat_inj, whole]
    exact eq_comm
  next breaks =>
    have bounded : c.toNat < UInt64.size := c.toNat_lt
    have apart : c.toNat ≠ n := by omega
    simp [apart]

theorem mul?_eq_some_iff : mul? a b = some c ↔ c.toNat = a.toNat * b.toNat := by
  constructor
  · exact mul?_eq_some
  · intro product
    have fits : a.toNat * b.toNat < UInt64.size := product ▸ c.toNat_lt
    rw [mul?, if_pos fits, Option.some.injEq, ← UInt64.toNat_inj, UInt64.toNat_mul, product]
    exact Nat.mod_eq_of_lt fits

end Word

/-! ### Instants of so many nanoseconds -/

namespace Instant

/-- The instant so many nanoseconds after the start of 1970. -/
def ofNanos (n : Nat) : Instant := ⟨(n / perSecond : Nat), n % perSecond⟩

/-- The dates that are kept begin before 1970 and go on after 2554. -/
theorem inRange_of_secs {i : Instant} (low : 0 ≤ i.secs) (high : i.secs ≤ 18446744073) :
    i.inRange = true := by
  have days : 0 ≤ i.secs / 86400 ∧ i.secs / 86400 ≤ 213504 := by omega
  -- The years from March on begin in the fifth cycle and end in the seventh.
  have inCycle : 0 ≤ (i.secs / 86400 + 719468) % 146097 := by omega
  obtain ⟨first, last⟩ := Date.yearOfCycle_bounds inCycle (by omega)
  have cycles : 4 ≤ (i.secs / 86400 + 719468) / 146097 ∧
      (i.secs / 86400 + 719468) / 146097 ≤ 6 := by omega
  rw [inRange, date, perDay, Date.ofDays_eq, Date.ofMarch, Date.yearInRange, Date.shift, Date.cycle]
  simp only [Bool.and_eq_true, decide_eq_true_eq]
  constructor <;> split <;> omega

theorem secs_ofNanos {n : Nat} (fits : n < UInt64.size) :
    0 ≤ (ofNanos n).secs ∧ (ofNanos n).secs ≤ 18446744073 := by
  have size : UInt64.size = 18446744073709551616 := rfl
  have whole : (ofNanos n).secs = (n / 1000000000 : Nat) := rfl
  omega

theorem inRange_ofNanos {n : Nat} (fits : n < UInt64.size) : (ofNanos n).inRange = true := by
  have bounds := secs_ofNanos fits
  exact inRange_of_secs bounds.1 bounds.2

theorem later_ofNanos (n : Nat) (s : Span) :
    Timestamp.later (ofNanos n) s = ofNanos (n + s.totalNanos) := by
  have secs : (n / 1000000000 : Nat) + (s.secs.toNat : Int)
      + ((n % 1000000000 + s.nanos.toNat) / 1000000000 : Nat)
      = ((n + s.totalNanos) / 1000000000 : Nat) := by
    unfold Span.totalNanos
    omega
  have nanos : (n % 1000000000 + s.nanos.toNat) % 1000000000
      = (n + s.totalNanos) % 1000000000 := by
    unfold Span.totalNanos
    omega
  exact congrArg₂ Instant.mk secs nanos

end Instant

/-! ### Timestamps -/

namespace Timestamp

/-- A calendar that makes the instant of every second it keeps dates for, with any nanoseconds below
a second. -/
def Makes (make : Int64 → UInt32 → Option Instant) : Prop :=
  ∀ secs nanos, nanos.toNat < Instant.perSecond →
    (Instant.mk secs.toInt nanos.toNat).inRange = true →
      make secs nanos = some ⟨secs.toInt, nanos.toNat⟩

/-- The timestamp of a number of nanoseconds as a calendar makes it, of seconds and of the rest as
words of their own. -/
def convert? (make : Int64 → UInt32 → Option Instant) (n : UInt64) : Option Timestamp :=
  if n = 0 then some unset
  else (make (n / 1000000000).toInt64 (n % 1000000000).toUInt32).map fun i => ⟨some i⟩

/-- The nanoseconds of a timestamp, multiplied out and added up in 64 bits. -/
def count? (t : Timestamp) : Option UInt64 :=
  match t.time with
  | none => some 0
  | some i => do
    let whole ← Word.mul? (.ofNat i.secs.toNat) 1000000000
    Word.add? whole (.ofNat i.nanos)

theorem ofNanoseconds_of_ne {n : UInt64} (set : n ≠ 0) :
    ofNanoseconds n = ⟨some (.ofNanos n.toNat)⟩ := if_neg set

theorem convert?_eq {make : Int64 → UInt32 → Option Instant} (makes : Makes make) (n : UInt64) :
    convert? make n = some (ofNanoseconds n) := by
  by_cases zero : n = 0
  · rw [convert?, ofNanoseconds, if_pos zero, if_pos zero]
  have fits : n.toNat < UInt64.size := n.toNat_lt
  have size : UInt64.size = 18446744073709551616 := rfl
  have seconds : (n / 1000000000).toInt64.toInt = (n.toNat / 1000000000 : Nat) := by
    have signed : (n / 1000000000).toNat < 2 ^ 63 := by
      rw [UInt64.toNat_div]
      change n.toNat / 1000000000 < _
      omega
    rw [← UInt64.ofNat_toNat (x := n / 1000000000), UInt64.toInt64_ofNat',
      Int64.toInt_ofNat_of_lt signed, UInt64.toNat_div]
    rfl
  have rest : (n % 1000000000).toUInt32.toNat = n.toNat % 1000000000 := by
    rw [UInt64.toNat_toUInt32, UInt64.toNat_mod]
    change n.toNat % 1000000000 % _ = _
    omega
  have parts : Instant.mk (n / 1000000000).toInt64.toInt (n % 1000000000).toUInt32.toNat
      = .ofNanos n.toNat := congrArg₂ Instant.mk seconds rest
  have below : (n % 1000000000).toUInt32.toNat < Instant.perSecond := by
    rw [rest]
    exact Nat.mod_lt _ (by decide)
  have made := makes (n / 1000000000).toInt64 (n % 1000000000).toUInt32 below
    (parts ▸ Instant.inRange_ofNanos fits)
  rw [convert?, if_neg zero, made, parts, ofNanoseconds_of_ne zero, Option.map_some]

/-- The count in 64 bits comes to the nanoseconds, and breaks only if they do not fit. -/
theorem count?_eq {t : Timestamp}
    (words : ∀ i, t.time = some i → i.secs.toNat < UInt64.size ∧ i.nanos < UInt64.size) :
    t.count? = t.nanoseconds? := by
  obtain ⟨none | i⟩ := t
  · rfl
  obtain ⟨secs, nanos⟩ := words i rfl
  have whole : (UInt64.ofNat i.secs.toNat).toNat = i.secs.toNat := UInt64.toNat_ofNat_of_lt' secs
  have part : (UInt64.ofNat i.nanos).toNat = i.nanos := UInt64.toNat_ofNat_of_lt' nanos
  have second : (1000000000 : UInt64).toNat = 1000000000 := rfl
  ext n
  change (do Word.add? (← Word.mul? (.ofNat i.secs.toNat) 1000000000) (.ofNat i.nanos)) = some n ↔
    Word.ofNat? (i.secs.toNat * 1000000000 + i.nanos) = some n
  simp only [Option.bind_eq_bind, Option.bind_eq_some_iff, Word.mul?_eq_some_iff,
    Word.add?_eq_some_iff, Word.ofNat?_eq_some_iff, whole, part, second]
  constructor
  · rintro ⟨w, product, sum⟩
    rw [sum, product]
  · intro sum
    have fits : i.secs.toNat * 1000000000 < UInt64.size := by
      have bounded : n.toNat < UInt64.size := n.toNat_lt
      omega
    have product := UInt64.toNat_ofNat_of_lt' fits
    exact ⟨_, product, sum.trans (congrArg (· + i.nanos) product.symm)⟩

theorem count?_ofNanoseconds (n : UInt64) : (ofNanoseconds n).count? = some n := by
  have fits : n.toNat < UInt64.size := n.toNat_lt
  rw [count?_eq, nanoseconds?_ofNanoseconds]
  intro i time
  by_cases zero : n = 0
  · rw [zero] at time
    cases time
  rw [ofNanoseconds_of_ne zero] at time
  obtain rfl := Option.some.inj time
  have bounds := Instant.secs_ofNanos fits
  have below : (Instant.ofNanos n.toNat).nanos < 1000000000 := Nat.mod_lt _ (by decide)
  have size : UInt64.size = 18446744073709551616 := rfl
  omega

theorem add_ofNanoseconds {a : UInt64} {s : Span} (set : a ≠ 0)
    (fits : a.toNat + s.totalNanos < UInt64.size) :
    (ofNanoseconds a).add s = .ok (ofNanoseconds (.ofNat (a.toNat + s.totalNanos))) := by
  have total : (UInt64.ofNat (a.toNat + s.totalNanos)).toNat = a.toNat + s.totalNanos :=
    UInt64.toNat_ofNat_of_lt' fits
  have still : UInt64.ofNat (a.toNat + s.totalNanos) ≠ 0 := by
    have positive : a.toNat ≠ 0 := fun zero => set (UInt64.toNat_inj.1 zero)
    intro zero
    rw [zero, UInt64.toNat_zero] at total
    omega
  rw [ofNanoseconds_of_ne set, ofNanoseconds_of_ne still, total]
  simp only [add, Instant.later_ofNanos, Instant.inRange_ofNanos fits, if_true]

/-- Every number of nanoseconds becomes a timestamp, and the timestamp counts up to it again without
leaving 64 bits; one timestamp is after another exactly if both are set and its number is the
greater; and a span on top of a timestamp that is set gives the timestamp of the sum as long as that
fits, while one that is unset stays so. -/
theorem nanoseconds_exact {make : Int64 → UInt32 → Option Instant} (makes : Makes make)
    (a b : UInt64) (s : Span) :
    (convert? make a = some (ofNanoseconds a) ∧ (ofNanoseconds a).count? = some a ∧
      (ofNanoseconds a).nanoseconds? = some a) ∧
    ((ofNanoseconds a).after (ofNanoseconds b) = true ↔ a ≠ 0 ∧ b ≠ 0 ∧ b < a) ∧
    (a ≠ 0 → a.toNat + s.totalNanos < UInt64.size →
      (ofNanoseconds a).add s = .ok (ofNanoseconds (.ofNat (a.toNat + s.totalNanos)))) ∧
    unset.add s = .ok unset := by
  refine ⟨⟨convert?_eq makes a, count?_ofNanoseconds a, nanoseconds?_ofNanoseconds a⟩,
    after_ofNanoseconds a b, ?_, rfl⟩
  intro set fits
  exact add_ofNanoseconds set fits

/-- The calendar of the dates that are kept, and a span that leads up to the largest number. -/
theorem nanoseconds_exact_largest :
    let make (secs : Int64) (nanos : UInt32) : Option Instant :=
      let i : Instant := ⟨secs.toInt, nanos.toNat⟩
      if i.nanos < Instant.perSecond ∧ i.inRange = true then some i else none
    let largest : UInt64 := 18446744073709551615
    Makes make ∧ convert? make largest = some (ofNanoseconds largest) ∧
      (ofNanoseconds largest).count? = some largest ∧
      (ofNanoseconds largest).after (ofNanoseconds 1) = true ∧
      (ofNanoseconds 1).add ⟨18446744073, 709551614⟩ = .ok (ofNanoseconds largest) := by
  intro make largest
  have makes : Makes make := fun secs nanos below kept => if_pos ⟨below, kept⟩
  obtain ⟨⟨converted, counted, -⟩, order, -⟩ := nanoseconds_exact makes largest 1 .zero
  obtain ⟨-, -, sum, -⟩ := nanoseconds_exact makes 1 1 ⟨18446744073, 709551614⟩
  exact ⟨makes, converted, counted, order.2 (by decide), sum (by decide) (by decide)⟩

end Timestamp

end Crosschain
