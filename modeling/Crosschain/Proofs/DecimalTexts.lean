import Crosschain.Proofs.Attempts
import Crosschain.Proofs.Committed
import Crosschain.Proofs.Moments
import Mathlib.Data.Prod.Lex
import Mathlib.Data.String.Basic

/-!
# Decimal texts

A word of 64 bits is read from digits, of which there may be leading zeros, behind at most one plus
sign, as long as their number fits. The digits a word is written in are read as that word again, and
so are a height, which is two words around one hyphen, and an identifier made from a counter, which
keeps the rules for its kind whatever the counter is.
-/

namespace Crosschain

/-! ### Words -/

namespace Word

/-- Digits, of which at least one, that stand for the number of a word. -/
structure Decimal (ds : List Char) (w : UInt64) : Prop where
  someDigit : ds ≠ []
  digits : ∀ c ∈ ds, c.isDigit = true
  value : Nat.ofDigitChars 10 ds 0 = w.toNat

/-- A text is digits that stand for the number of a word, behind a plus sign or not. -/
def Spells (s : String) (w : UInt64) : Prop :=
  ∃ ds, Decimal ds w ∧ (s.toList = ds ∨ s.toList = '+' :: ds)

theorem digit?_eq (c : Char) : digit? c = if c.isDigit then some (c.toNat - '0'.toNat) else none := by
  have same : ('0' ≤ c ∧ c ≤ '9') ↔ c.isDigit = true := by
    rw [Char.isDigit_iff_toNat]
    exact Iff.rfl
  simp only [digit?, same]
  rfl

theorem le_ofDigitChars (ds : List Char) (n : Nat) : n ≤ Nat.ofDigitChars 10 ds n := by
  rw [Nat.ofDigitChars_eq_ofDigitChars_zero]
  have positive : 0 < 10 ^ ds.length := Nat.pow_pos (by decide)
  exact Nat.le_trans (Nat.le_mul_of_pos_left n positive) (Nat.le_add_right _ _)

theorem digits_eq_ok_iff {acc : Nat} (small : acc < UInt64.size) {cs : List Char} {w : UInt64} :
    digits acc cs = .ok w ↔
      (∀ c ∈ cs, c.isDigit = true) ∧ Nat.ofDigitChars 10 cs acc = w.toNat := by
  induction cs generalizing acc with
  | nil =>
    have whole : (UInt64.ofNat acc).toNat = acc := UInt64.toNat_ofNat_of_lt' small
    rw [digits, Nat.ofDigitChars_nil, Except.ok.injEq, ← UInt64.toNat_inj, whole]
    simp
  | cons c r ih =>
    rw [digits, digit?_eq, Nat.ofDigitChars_cons, List.forall_mem_cons]
    by_cases digit : c.isDigit = true
    · rw [if_pos digit, Nat.mul_comm]
      simp only [digit, true_and]
      split
      next fits => exact ih fits
      next breaks =>
        -- What is read so far is too large already, and the rest does not make it smaller.
        have large := le_ofDigitChars r (10 * acc + (c.toNat - '0'.toNat))
        have bounded : w.toNat < UInt64.size := w.toNat_lt
        constructor
        · exact nofun
        · rintro ⟨-, value⟩
          omega
    · simp [digit]

theorem digits_zero_eq_ok_iff {cs : List Char} (someDigit : cs ≠ []) {w : UInt64} :
    digits 0 cs = .ok w ↔ Decimal cs w := by
  rw [digits_eq_ok_iff (by decide)]
  constructor
  · rintro ⟨digits, value⟩
    exact ⟨someDigit, digits, value⟩
  · rintro ⟨-, digits, value⟩
    exact ⟨digits, value⟩

theorem Decimal.ne_plus_cons {ds : List Char} {w : UInt64} (decimal : Decimal ds w)
    (r : List Char) : ds ≠ '+' :: r := by
  rintro rfl
  exact absurd (decimal.digits '+' List.mem_cons_self) (by decide)

/-- A word is read from the texts that spell it. -/
theorem ofText_eq_ok_iff {s : String} {w : UInt64} : ofText s = .ok w ↔ Spells s w := by
  unfold ofText Spells
  generalize s.toList = cs
  unfold ofChars
  split
  next =>
    constructor
    · exact nofun
    · rintro ⟨ds, decimal, rfl | same⟩
      · exact absurd rfl decimal.someDigit
      · cases same
  next =>
    constructor
    · exact nofun
    · rintro ⟨ds, decimal, rfl | same⟩
      · exact absurd rfl (decimal.ne_plus_cons [])
      · obtain ⟨-, rfl⟩ := List.cons.inj same
        exact absurd rfl decimal.someDigit
  next r more =>
    rw [digits_zero_eq_ok_iff more]
    constructor
    · exact fun decimal => ⟨r, decimal, .inr rfl⟩
    · rintro ⟨ds, decimal, rfl | same⟩
      · exact absurd rfl (decimal.ne_plus_cons r)
      · obtain ⟨-, rfl⟩ := List.cons.inj same
        exact decimal
  next filled _ unsigned =>
    rw [digits_zero_eq_ok_iff filled]
    constructor
    · exact fun decimal => ⟨cs, decimal, .inl rfl⟩
    · rintro ⟨ds, decimal, rfl | rfl⟩
      · exact decimal
      · exact absurd rfl (unsigned ds)

theorem decimal_text (w : UInt64) : Decimal (text w).toList w := by
  rw [text, Nat.toList_repr]
  exact ⟨Nat.toDigits_ne_nil, Json.isDigit_of_mem_toDigits _, Nat.ofDigitChars_ten_toDigits⟩

theorem spells_text (w : UInt64) : Spells (text w) w := ⟨_, decimal_text w, .inl rfl⟩

theorem Spells.hyphen_notMem {s : String} {w : UInt64} (spells : Spells s w) :
    '-' ∉ s.toList := by
  obtain ⟨ds, decimal, shape⟩ := spells
  have noDigit : '-' ∉ ds := fun mem => absurd (decimal.digits _ mem) (by decide)
  rcases shape with same | same
  · rwa [same]
  · rw [same]
    simp [noDigit]

theorem utf8Len_of_digits {ds : List Char} (digits : ∀ c ∈ ds, c.isDigit = true) :
    String.utf8Len ds = ds.length := by
  induction ds with
  | nil => rfl
  | cons c r ih =>
    rw [List.forall_mem_cons] at digits
    have one : c.utf8Size = 1 := by
      have bound := (Char.isDigit_iff_toNat.1 digits.1).2
      rw [Char.utf8Size_eq_one_iff, UInt32.le_iff_toNat_le]
      exact Nat.le_trans bound (by decide)
    rw [String.utf8Len_cons, ih digits.2, one, List.length_cons]

theorem utf8ByteSize_text (w : UInt64) :
    1 ≤ (text w).utf8ByteSize ∧ (text w).utf8ByteSize ≤ 20 := by
  have bytes : (text w).utf8ByteSize = w.toNat.repr.length := by
    rw [← String.length_toList, ← text, ← utf8Len_of_digits (decimal_text w).digits,
      ← String.utf8ByteSize_ofList, String.ofList_toList]
  rw [bytes]
  exact ⟨Nat.length_repr_pos, (Nat.length_repr_le_iff (by decide)).2
    (Nat.lt_trans w.toNat_lt (by decide))⟩

end Word

/-! ### Heights -/

namespace Height

theorem splitAll_eq (sep : Char) (l : List Char) : splitAll sep l = l.splitOn sep := by
  induction l with
  | nil => rfl
  | cons c r ih =>
    rw [splitAll, List.splitOn_cons_eq_if_modifyHead, ih]
    simp only [beq_iff_eq]
    split
    · rfl
    · cases parts : r.splitOn sep with
      | nil => exact absurd parts (List.splitOn_ne_nil sep r)
      | cons p ps => rfl

theorem ofParts_eq_ok_iff {r n : UInt64} {h : Height} :
    ofParts r n = .ok h ↔ r = h.revision ∧ n = h.height ∧ h.height ≠ 0 := by
  obtain ⟨revision, height⟩ := h
  unfold ofParts
  split
  next zero =>
    constructor
    · exact nofun
    · rintro ⟨-, rfl, positive⟩
      exact absurd zero positive
  next positive =>
    rw [Except.ok.injEq, mk.injEq]
    constructor
    · rintro ⟨rfl, rfl⟩
      exact ⟨rfl, rfl, positive⟩
    · rintro ⟨rfl, rfl, -⟩
      exact ⟨rfl, rfl⟩

/-- A height is read from two texts around a hyphen which each spell a word, the second above
zero. -/
theorem ofText_eq_ok_iff {s : String} {h : Height} :
    ofText s = .ok h ↔ ∃ r t, s = r ++ "-" ++ t ∧ Word.Spells r h.revision ∧
      Word.Spells t h.height ∧ h.height ≠ 0 := by
  have hyphen : "-".toList = ['-'] := by decide
  rw [ofText, splitAll_eq]
  constructor
  · intro ok
    split at ok
    next r t parts =>
      have whole : ['-'].intercalate (s.toList.splitOn '-') = s.toList :=
        List.intercalate_splitOn '-'
      rw [parts] at whole
      obtain ⟨v, first, ok⟩ := Except.bind_eq_ok.1 ok
      obtain ⟨w, second, ok⟩ := Except.bind_eq_ok.1 ok
      obtain ⟨rfl, rfl, positive⟩ := ofParts_eq_ok_iff.1 (Except.mapError_eq_ok.1 ok)
      refine ⟨.ofList r, .ofList t, ?_, ?_, ?_, positive⟩
      · rw [← String.toList_inj, ← whole]
        simp [hyphen]
      · rw [← Word.ofText_eq_ok_iff, Word.ofText, String.toList_ofList]
        exact Except.mapError_eq_ok.1 first
      · rw [← Word.ofText_eq_ok_iff, Word.ofText, String.toList_ofList]
        exact Except.mapError_eq_ok.1 second
    next => cases ok
  · rintro ⟨r, t, rfl, first, second, positive⟩
    -- A text that spells a word holds no hyphen, so there are just these two parts.
    have parts : (r ++ "-" ++ t).toList.splitOn '-' = [r.toList, t.toList] := by
      rw [String.toList_append, String.toList_append, hyphen, List.append_assoc,
        List.singleton_append, List.splitOn_append_cons_self_of_not_mem first.hyphen_notMem,
        List.splitOn_eq_singleton second.hyphen_notMem]
    rw [parts]
    refine Except.bind_eq_ok.2 ⟨_, Except.mapError_eq_ok.2 (Word.ofText_eq_ok_iff.2 first), ?_⟩
    refine Except.bind_eq_ok.2 ⟨_, Except.mapError_eq_ok.2 (Word.ofText_eq_ok_iff.2 second), ?_⟩
    exact Except.mapError_eq_ok.2 (ofParts_eq_ok_iff.2 ⟨rfl, rfl, positive⟩)

theorem count_hyphen {r t : String} {v w : UInt64} (first : Word.Spells r v)
    (second : Word.Spells t w) : (r ++ "-" ++ t).toList.count '-' = 1 := by
  have hyphen : "-".toList.count '-' = 1 := by decide
  rw [String.toList_append, String.toList_append, List.count_append, List.count_append, hyphen,
    List.count_eq_zero.2 first.hyphen_notMem, List.count_eq_zero.2 second.hyphen_notMem]

theorem ofText_text_iff {h : Height} : ofText h.text = .ok h ↔ h.height ≠ 0 := by
  rw [ofText_eq_ok_iff]
  constructor
  · rintro ⟨-, -, -, -, -, positive⟩
    exact positive
  · intro positive
    exact ⟨_, _, rfl, Word.spells_text _, Word.spells_text _, positive⟩

/-- What a height is compared by, in the order of dictionaries. -/
def key (h : Height) : UInt64 ×ₗ UInt64 := toLex (h.revision, h.height)

theorem key_inj {a b : Height} : a.key = b.key ↔ a = b := by
  obtain ⟨r, n⟩ := a
  obtain ⟨r', n'⟩ := b
  rw [key, key, toLex_inj, Prod.mk.injEq, mk.injEq]

theorem compare_eq_lt_iff {a b : Height} : compare a b = .lt ↔ a.key < b.key := by
  rw [compare_eq, Ordering.then_eq_lt, Std.compare_eq_lt, Std.compare_eq_iff_eq, Std.compare_eq_lt]
  exact (Prod.Lex.toLex_lt_toLex (x := (a.revision, a.height)) (y := (b.revision, b.height))).symm

theorem compare_eq_gt_iff {a b : Height} : compare a b = .gt ↔ b.key < a.key := by
  rw [Std.OrientedCmp.gt_iff_lt, compare_eq_lt_iff]

end Height

/-! ### Identifiers made from a counter -/

namespace Identifier

variable {k : IdKind} {mark : String}

/-- A mark that can stand in front of any counter in an identifier of kind `k`. -/
structure Heads (k : IdKind) (mark : String) : Prop where
  allowed : mark.toList.all allows = true
  slashless : '/' ∉ mark.toList
  least : (minLength k).toNat ≤ mark.utf8ByteSize + 1
  most : mark.utf8ByteSize + 20 ≤ (maxLength k).toNat

theorem heads_connection : Heads .connection "connection-" := by
  constructor <;> decide

theorem heads_channel : Heads .channel "channel-" := by
  constructor <;> decide

theorem allows_of_isDigit {c : Char} (digit : c.isDigit = true) : allows c = true := by
  have ascii : c.toNat < 0x80 :=
    Nat.lt_of_le_of_lt (Char.isDigit_iff_toNat.1 digit).2 (by decide)
  simp [allows, Text.isAlphanumeric, ascii, Char.isAlphanum, digit]

theorem Heads.check_eq (heads : Heads k mark) (n : UInt64) :
    check (mark ++ Word.text n) (minLength k) (maxLength k) = .ok () := by
  have digits := (Word.decimal_text n).digits
  obtain ⟨least, most⟩ := Word.utf8ByteSize_text n
  have size : (mark ++ Word.text n).utf8ByteSize =
      mark.utf8ByteSize + (Word.text n).utf8ByteSize := String.utf8ByteSize_append
  have length : (UInt64.ofNat (mark ++ Word.text n).utf8ByteSize).toNat =
      mark.utf8ByteSize + (Word.text n).utf8ByteSize := by
    have room := heads.most
    have bounded := (maxLength k).toNat_lt_size
    rw [size]
    exact UInt64.toNat_ofNat_of_lt' (by omega)
  have filled : ¬ (mark ++ Word.text n).isEmpty = true := by
    rw [String.isEmpty_iff_utf8ByteSize_eq_zero, size]
    omega
  have slashless : ¬ (mark ++ Word.text n).toList.contains '/' = true := by
    rw [List.contains_iff_mem, String.toList_append, List.mem_append]
    exact fun slash => slash.elim heads.slashless (Path.slash_notMem_text n)
  have within : ¬ (UInt64.ofNat (mark ++ Word.text n).utf8ByteSize < minLength k ∨
      maxLength k < UInt64.ofNat (mark ++ Word.text n).utf8ByteSize) := by
    have lower := heads.least
    have upper := heads.most
    rw [UInt64.lt_iff_toNat_lt, UInt64.lt_iff_toNat_lt, length]
    omega
  have allowed : (mark ++ Word.text n).toList.all allows = true := by
    rw [String.toList_append, List.all_append, heads.allowed, Bool.true_and, List.all_eq_true]
    exact fun c mem => allows_of_isDigit (digits c mem)
  rw [check, if_neg filled, if_neg slashless, if_neg within, if_pos allowed]

theorem Heads.ofText (heads : Heads k mark) (n : UInt64) :
    ofText k (mark ++ Word.text n) = .ok ⟨mark ++ Word.text n⟩ := by
  rw [Identifier.ofText, heads.check_eq]
  rfl

end Identifier

/-- A word is read from the texts that spell it; a height above zero is read back from its text, and
what is read as a height is two texts around the only hyphen which each spell a word, the second
above zero; heights are compared in the order of dictionaries, revision first; and the identifiers
of connections and channels made from a counter keep the rules of their kind, are read back, and
differ for different counters. -/
theorem decimal_texts_exact (s : String) (h a b : Height) (m n : UInt64) :
    (Word.ofText s = .ok n ↔ Word.Spells s n) ∧
    (Height.ofText h.text = .ok h ↔ h.height ≠ 0) ∧
    (Height.ofText s = .ok h ↔ ∃ r t, s = r ++ "-" ++ t ∧ s.toList.count '-' = 1 ∧
      Word.Spells r h.revision ∧ Word.Spells t h.height ∧ h.height ≠ 0) ∧
    ((compare a b = .lt ↔ a.key < b.key) ∧ (compare a b = .eq ↔ a.key = b.key) ∧
      (compare a b = .gt ↔ b.key < a.key)) ∧
    (Identifier.ofText .connection (Identifier.connection n).text = .ok (.connection n) ∧
      Identifier.ofText .channel (Identifier.channel n).text = .ok (.channel n)) ∧
    ((Identifier.connection m = .connection n ↔ m = n) ∧
      (Identifier.channel m = .channel n ↔ m = n)) := by
  refine ⟨Word.ofText_eq_ok_iff, Height.ofText_text_iff, ?_,
    ⟨Height.compare_eq_lt_iff, ?_, Height.compare_eq_gt_iff⟩,
    ⟨Identifier.heads_connection.ofText n, Identifier.heads_channel.ofText n⟩,
    ⟨Identifier.connection_injective, congrArg _⟩, ⟨Identifier.channel_injective, congrArg _⟩⟩
  · rw [Height.ofText_eq_ok_iff]
    constructor
    · rintro ⟨r, t, rfl, first, second, positive⟩
      exact ⟨r, t, rfl, Height.count_hyphen first second, first, second, positive⟩
    · rintro ⟨r, t, whole, -, first, second, positive⟩
      exact ⟨r, t, whole, first, second, positive⟩
  · rw [Std.compare_eq_iff_eq]
    exact Height.key_inj.symm

end Crosschain
