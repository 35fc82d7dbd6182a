import Crosschain.Host
import Crosschain.Timeout

/-!
# Heights and times in order

Heights of one revision are ordered as numbers, a timestamp built from nanoseconds is determined by
them and ordered as they are, and the time of a block grows with its height.
-/

namespace Crosschain

/-! ### Heights -/

namespace Height

theorem compare_eq (a b : Height) :
    compare a b = (compare a.revision b.revision).then (compare a.height b.height) := rfl

theorem le_iff {a b : Height} :
    a ≤ b ↔ a.revision < b.revision ∨ a.revision = b.revision ∧ a.height ≤ b.height := by
  have unfolded : a ≤ b ↔ (compare a b).isLE := Iff.rfl
  rw [unfolded, compare_eq]
  cases revision : compare a.revision b.revision with
  | lt => simp [Std.compare_eq_lt.1 revision]
  | eq =>
    have same := Std.compare_eq_iff_eq.1 revision
    simp [same, Std.isLE_compare]
  | gt =>
    have above := Std.compare_eq_gt.1 revision
    have apart : a.revision ≠ b.revision := fun same => UInt64.lt_irrefl _ (same ▸ above)
    simp [apart, UInt64.not_lt.2 (UInt64.le_of_lt above)]

theorem le_trans {a b c : Height} (hab : a ≤ b) (hbc : b ≤ c) : a ≤ c := by
  rw [le_iff] at *
  simp only [UInt64.lt_iff_toNat_lt, UInt64.le_iff_toNat_le, ← UInt64.toNat_inj] at *
  omega

theorem zero_le (a : Height) : (⟨0, 0⟩ : Height) ≤ a := by
  rw [le_iff]
  simp only [UInt64.lt_iff_toNat_lt, UInt64.le_iff_toNat_le, ← UInt64.toNat_inj,
    UInt64.toNat_zero]
  omega

theorem eq_zero_of_le {a : Height} (h : a ≤ ⟨0, 0⟩) : a = ⟨0, 0⟩ := by
  obtain ⟨revision, height⟩ := a
  rw [le_iff] at h
  simp only [UInt64.lt_iff_toNat_lt, UInt64.le_iff_toNat_le, ← UInt64.toNat_inj,
    UInt64.toNat_zero, mk.injEq] at *
  omega

theorem next?_eq_some {a b : Height} (h : a.next? = some b) :
    b.revision = a.revision ∧ b.height.toNat = a.height.toNat + 1 := by
  simp only [next?, add?, Option.map_eq_some_iff] at h
  obtain ⟨n, sum, rfl⟩ := h
  exact ⟨rfl, Word.add?_eq_some_iff.1 sum⟩

end Height

/-! ### Timestamps -/

instance : Std.TransOrd Instant :=
  inferInstanceAs (Std.TransCmp (compareLex (compareOn Instant.secs) (compareOn Instant.nanos)))

namespace Timestamp

theorem nanoseconds_ofNanoseconds (n : UInt64) : (ofNanoseconds n).nanoseconds = n.toNat := by
  unfold ofNanoseconds
  split
  case isTrue zero =>
    rw [zero]
    rfl
  case isFalse =>
    simp only [nanoseconds, Int.toNat_natCast]
    exact Nat.div_add_mod' n.toNat Instant.perSecond

theorem nanoseconds?_ofNanoseconds (n : UInt64) : (ofNanoseconds n).nanoseconds? = some n := by
  simp only [nanoseconds?, nanoseconds_ofNanoseconds, Word.ofNat?, n.toNat_lt_size, if_true,
    UInt64.ofNat_toNat]

theorem compare_parts (m n : Nat) :
    (compare (Instant.mk (m / Instant.perSecond : Nat) (m % Instant.perSecond))
      ⟨(n / Instant.perSecond : Nat), n % Instant.perSecond⟩) = compare m n := by
  have unfolded : ∀ a b : Instant,
      compare a b = (compare a.secs b.secs).then (compare a.nanos b.nanos) := fun _ _ => rfl
  have hm := Nat.div_add_mod m 1000000000
  have hn := Nat.div_add_mod n 1000000000
  have hm' := Nat.mod_lt m (y := 1000000000) (by decide)
  have hn' := Nat.mod_lt n (y := 1000000000) (by decide)
  simp only [unfolded, Instant.perSecond]
  rcases Nat.lt_trichotomy m n with lt | rfl | gt
  · rw [Std.compare_eq_lt.2 lt]
    by_cases secs : m / 1000000000 = n / 1000000000
    · rw [secs, Std.compare_self, Ordering.eq_then, Std.compare_eq_lt]
      omega
    · rw [Std.compare_eq_lt.2 (by omega : ((m / 1000000000 : Nat) : Int) < (n / 1000000000 : Nat))]
      rfl
  · simp
  · rw [Std.compare_eq_gt.2 gt]
    by_cases secs : m / 1000000000 = n / 1000000000
    · rw [secs, Std.compare_self, Ordering.eq_then, Std.compare_eq_gt]
      omega
    · rw [Std.compare_eq_gt.2 (by omega : ((n / 1000000000 : Nat) : Int) < (m / 1000000000 : Nat))]
      rfl

theorem isSet_ofNanoseconds (n : UInt64) : (ofNanoseconds n).isSet = true ↔ n ≠ 0 := by
  unfold ofNanoseconds
  split
  next zero => simp [zero, isSet, unset]
  next set => simp [set, isSet]

theorem after_ofNanoseconds (m n : UInt64) :
    (ofNanoseconds m).after (ofNanoseconds n) = true ↔ m ≠ 0 ∧ n ≠ 0 ∧ n < m := by
  unfold ofNanoseconds
  by_cases hm : m = 0
  · simp [hm, after, unset]
  by_cases hn : n = 0
  · simp [hm, hn, after, unset]
  simp only [hm, hn, if_false, after, compare_parts, ne_eq, not_false_eq_true, true_and]
  rw [Ordering.isGT_iff_eq_gt, Nat.compare_eq_gt, UInt64.lt_iff_toNat_lt]

theorem reachedAt_ofNanoseconds (m n : UInt64) :
    (ofNanoseconds m).reachedAt (ofNanoseconds n) = true ↔ m ≠ 0 ∧ n ≠ 0 ∧ m ≤ n := by
  rw [reachedAt, Bool.and_eq_true, Bool.and_eq_true, Bool.not_eq_true', Bool.eq_false_iff,
    isSet_ofNanoseconds, isSet_ofNanoseconds, ne_eq ((ofNanoseconds m).after _), after_ofNanoseconds]
  constructor
  · rintro ⟨⟨hm, hn⟩, notAfter⟩
    exact ⟨hm, hn, UInt64.not_lt.1 fun after => notAfter ⟨hm, hn, after⟩⟩
  · rintro ⟨hm, hn, le⟩
    exact ⟨⟨hm, hn⟩, fun after => UInt64.not_le.2 after.2.2 le⟩

theorem reachedAt_mono {t : Timestamp} {m n : UInt64} (le : m ≤ n)
    (reached : t.reachedAt (ofNanoseconds m)) : t.reachedAt (ofNanoseconds n) := by
  have positive : m ≠ 0 := by
    rintro rfl
    simp [reachedAt, ofNanoseconds, isSet, unset] at reached
  have later : n ≠ 0 := by
    rintro rfl
    exact positive (UInt64.le_zero_iff.1 le)
  obtain ⟨_ | i⟩ := t
  · simp [reachedAt, isSet] at reached
  · simp only [reachedAt, ofNanoseconds, positive, later, if_false, isSet, after,
      Option.isSome_some, Bool.true_and, Ordering.not_isGT_eq_isLE] at reached ⊢
    refine Std.TransCmp.isLE_trans reached ?_
    rw [compare_parts, Nat.isLE_compare]
    exact UInt64.le_iff_toNat_le.1 le

end Timestamp

/-! ### Times of blocks -/

theorem Word.mul?_eq_some {a b c : UInt64} (h : mul? a b = some c) :
    c.toNat = a.toNat * b.toNat := by
  unfold mul? at h
  split at h
  next fits =>
    cases h
    rw [UInt64.toNat_mul]
    exact Nat.mod_eq_of_lt fits
  · cases h

theorem blockTime?_eq_some {h : Height} {t : Timestamp} (time : blockTime? h = some t) :
    ∃ n : UInt64, t = .ofNanoseconds n ∧
      n.toNat = genesisNanoseconds.toNat + h.height.toNat * blockNanoseconds.toNat := by
  simp only [blockTime?, Option.bind_eq_bind, Option.bind_eq_some_iff, Option.pure_def,
    Option.some.injEq] at time
  obtain ⟨elapsed, product, now, sum, rfl⟩ := time
  refine ⟨now, rfl, ?_⟩
  rw [Word.add?_eq_some_iff.1 sum, Word.mul?_eq_some product]

theorem blockTime?_mono {g k : Height} {s t : Timestamp} (le : g.height ≤ k.height)
    (before : blockTime? g = some s) (after : blockTime? k = some t) (limit : Timestamp)
    (reached : limit.reachedAt s) : limit.reachedAt t := by
  obtain ⟨m, rfl, first⟩ := blockTime?_eq_some before
  obtain ⟨n, rfl, second⟩ := blockTime?_eq_some after
  refine Timestamp.reachedAt_mono ?_ reached
  rw [UInt64.le_iff_toNat_le, first, second]
  exact Nat.add_le_add_left (Nat.mul_le_mul_right _ (UInt64.le_iff_toNat_le.1 le)) _

/-- A timeout that a block of a height has not reached, but a later block has. -/
theorem lt_of_reachedAt {limit : Timestamp} {g h : Height} {s t : Timestamp}
    (hg : blockTime? g = some s) (hh : blockTime? h = some t) (before : limit.reachedAt s = false)
    (after : limit.reachedAt t = true) : g.height.toNat < h.height.toNat := by
  refine Nat.lt_of_not_le fun le => ?_
  rw [blockTime?_mono (UInt64.le_iff_toNat_le.2 le) hh hg limit after] at before
  cases before

end Crosschain
