import Crosschain.Channel.Error

/-!
# Names of orderings

An ordering is read from a text whose letters are lowered, those of every script, and from which
marks are cut in front. Only two characters beyond ASCII have a lower case that starts in ASCII, the
sign of the kelvin and the capital I with a dot, and neither `k` nor `i` stands in a name or in the
mark. So what is read is told by ASCII letters alone: the two names in any case, bare or behind one
mark, and besides these the same names behind more marks.
-/

namespace Crosschain

namespace Text

/-! ### Lower case that is ASCII -/

/-- An ASCII character that no character beyond ASCII has in the place of its lower case. -/
def Plain (c : Char) : Prop := c.toNat < 0x80 ∧ c ≠ 'k' ∧ c ≠ 'i'

instance : DecidablePred Plain := fun _ => inferInstanceAs (Decidable (_ ∧ _ ∧ _))

/-- Apart from the sign of the kelvin, a run ends up beyond ASCII and at characters that exist. -/
theorem caseRuns_sound : ∀ r ∈ caseRuns, r = ⟨0x212A, 0x212A, 1, 0x6B⟩ ∨ 0x80 ≤ r.lower ∧
    (r.lower + (r.last - r.first) < 0xD800 ∨
      0xDFFF < r.lower ∧ r.lower + (r.last - r.first) < 0x110000) := by
  decide +kernel

theorem lowerCode_beyond {n : Nat} (valid : n.isValidChar) (beyond : 0x80 ≤ n) :
    lowerCode n = 0x6B ∨ 0x80 ≤ lowerCode n ∧ (lowerCode n).isValidChar := by
  unfold lowerCode
  split
  next r found =>
    have holds := List.find?_some found
    simp only [CaseRun.holds, Bool.and_eq_true, decide_eq_true_eq] at holds
    obtain ⟨⟨first, last⟩, -⟩ := holds
    rcases caseRuns_sound r (List.mem_of_find?_eq_some found) with rfl | ⟨above, exist⟩
    · left
      simp only at first last ⊢
      omega
    · right
      refine ⟨by omega, ?_⟩
      rcases exist with below | ⟨past, within⟩
      · exact .inl (by omega)
      · exact .inr (by omega)
  next => exact .inr ⟨beyond, valid⟩

theorem lowerChar_ascii {c : Char} (ascii : c.toNat < 0x80) : lowerChar c = [c.toLower] :=
  if_pos ascii

theorem toLower_beyond {c : Char} (beyond : 0x80 ≤ c.toNat) : c.toLower = c := by
  have last : ¬ c.val ≤ 'Z'.val := by
    rw [UInt32.le_iff_toNat_le]
    exact fun le => absurd (Nat.le_trans beyond le) (by decide)
  exact dif_neg fun capital => last capital.2

theorem exists_lowerChar_beyond {c : Char} (beyond : 0x80 ≤ c.toNat) :
    ∃ d r, lowerChar c = d :: r ∧ ¬ Plain d := by
  have notAscii : ¬ c.toNat < 0x80 := Nat.not_lt.2 beyond
  unfold lowerChar
  rw [if_neg notAscii]
  by_cases dotted : c = '\u0130'
  · exact ⟨'i', ['\u0307'], if_pos dotted, by decide⟩
  · refine ⟨_, [], if_neg dotted, fun plain => ?_⟩
    have real : c.toNat.isValidChar := c.valid
    rcases lowerCode_beyond real beyond with kelvin | ⟨above, valid⟩
    · rw [kelvin] at plain
      exact plain.2.1 (by decide)
    · have same : (Char.ofNat (lowerCode c.toNat)).toNat = lowerCode c.toNat := by
        rw [Char.ofNat, dif_pos valid]
        rfl
      have ascii := plain.1
      omega

/-- For a plain text, lowering all letters comes to lowering those of ASCII. -/
theorem lowercaseFrom_eq_iff {before cs t : List Char} (plain : ∀ c ∈ t, Plain c) :
    lowercaseFrom before cs = t ↔ cs.map Char.toLower = t := by
  induction cs generalizing before t with
  | nil => rfl
  | cons c r ih =>
    rw [lowercaseFrom, List.map_cons]
    by_cases ascii : c.toNat < 0x80
    · have other : c ≠ '\u03A3' := by
        rintro rfl
        exact absurd ascii (by decide)
      rw [if_neg (fun final => other final.1), lowerChar_ascii ascii, List.singleton_append]
      cases t with
      | nil => simp
      | cons d t =>
        rw [List.cons.injEq, List.cons.injEq, ih fun e mem => plain e (List.mem_cons_of_mem d mem)]
    · -- Either side starts with a character that is not plain, so neither is `t`.
      have beyond : 0x80 ≤ c.toNat := Nat.not_lt.1 ascii
      have start : ∃ d l, (if c = '\u03A3' ∧ startsCased before = true ∧ ¬ startsCased r = true
          then ['\u03C2'] else lowerChar c) = d :: l ∧ ¬ Plain d := by
        split
        · exact ⟨'\u03C2', [], rfl, by decide⟩
        · exact exists_lowerChar_beyond beyond
      obtain ⟨d, l, lowered, foreign⟩ := start
      rw [lowered, toLower_beyond beyond]
      constructor
      · rintro rfl
        exact absurd (plain d List.mem_cons_self) foreign
      · rintro rfl
        exact absurd (plain c List.mem_cons_self).1 ascii

/-- The same text but for the case of its ASCII letters. -/
def SameLetters (s t : String) : Prop := s.toLower = t.toLower

theorem sameLetters_iff {s t : String} :
    SameLetters s t ↔ s.toList.map Char.toLower = t.toList.map Char.toLower := by
  have lowered (u : String) : u.toLower.toList = u.toList.map Char.toLower := String.toList_map
  rw [SameLetters, ← String.toList_inj, lowered, lowered]

theorem lowercase_eq_iff {s t : String} (plain : ∀ c ∈ t.toList.map Char.toLower, Plain c) :
    lowercase s.toList = t.toList.map Char.toLower ↔ SameLetters s t :=
  (lowercaseFrom_eq_iff plain).trans sameLetters_iff.symm

end Text

namespace Order

open Text (SameLetters)

/-! ### Names and marks -/

def bareName : Order → String
  | .unordered => "UNORDERED"
  | .ordered => "ORDERED"

/-- The name behind `n` marks. -/
def marked (o : Order) : Nat → String
  | 0 => o.bareName
  | n + 1 => "ORDER_" ++ marked o n

theorem marked_one (o : Order) : o.marked 1 = o.text := by
  cases o <;> rfl

theorem lower_marked_succ (o : Order) (n : Nat) :
    (o.marked (n + 1)).toList.map Char.toLower =
      'o' :: 'r' :: 'd' :: 'e' :: 'r' :: '_' :: (o.marked n).toList.map Char.toLower := by
  have mark : "ORDER_".toList.map Char.toLower = ['o', 'r', 'd', 'e', 'r', '_'] := by decide
  rw [marked, String.toList_append, List.map_append, mark]
  rfl

theorem plain_marked (o : Order) (n : Nat) :
    ∀ c ∈ (o.marked n).toList.map Char.toLower, Text.Plain c := by
  have bare : (o.bareName.toList.map Char.toLower).all fun c => decide (Text.Plain c) := by
    cases o <;> decide
  have mark : ['o', 'r', 'd', 'e', 'r', '_'].all fun c => decide (Text.Plain c) := by decide
  simp only [List.all_eq_true, decide_eq_true_eq] at bare mark
  induction n with
  | zero => exact bare
  | succ n ih =>
    intro c mem
    rw [lower_marked_succ] at mem
    rcases List.mem_append.1 (show c ∈ ['o', 'r', 'd', 'e', 'r', '_'] ++ _ from mem) with new | old
    · exact mark c new
    · exact ih c old

theorem ofName?_eq_some_iff {cs : List Char} {o : Order} :
    ofName? cs = some o ↔ cs = o.bareName.toList.map Char.toLower := by
  have first : "unordered".toList = (bareName .unordered).toList.map Char.toLower := by decide
  have second : "ordered".toList = (bareName .ordered).toList.map Char.toLower := by decide
  have apart : (bareName .ordered).toList.map Char.toLower ≠
      (bareName .unordered).toList.map Char.toLower := by decide
  rw [ofName?, first, second]
  constructor
  · intro read
    split at read
    next same => cases read; exact same
    next =>
      split at read
      next same => cases read; exact same
      next => cases read
  · rintro rfl
    cases o
    case unordered => exact if_pos rfl
    case ordered => exact (if_neg apart).trans (if_pos rfl)

theorem dropMarks_eq_iff {cs : List Char} {o : Order} :
    dropMarks cs = o.bareName.toList.map Char.toLower ↔
      ∃ n, cs = (o.marked n).toList.map Char.toLower := by
  constructor
  · intro bare
    induction cs using dropMarks.induct with
    | case1 r ih =>
      rw [dropMarks] at bare
      obtain ⟨n, behind⟩ := ih bare
      exact ⟨n + 1, by rw [lower_marked_succ, behind]⟩
    | case2 cs other =>
      rw [dropMarks] at bare
      · exact ⟨0, bare⟩
      · exact other
  · rintro ⟨n, rfl⟩
    induction n with
    | zero => cases o <;> decide
    | succ n ih => rw [lower_marked_succ, dropMarks, ih]

/-- An ordering is read from its name behind any number of marks, and from nothing else. -/
theorem ofText?_eq_some_iff {s : String} {o : Order} :
    ofText? s = some o ↔ ∃ n, SameLetters s (o.marked n) := by
  rw [ofText?, ofName?_eq_some_iff, dropMarks_eq_iff]
  exact exists_congr fun n => Text.lowercase_eq_iff (plain_marked o n)

example : ofText? "Order_ORDER_ordered" = some .ordered := by decide

theorem ofText_eq_ok_iff {s : String} {o : Order} :
    ofText s = .ok o ↔ ∃ n, SameLetters s (o.marked n) := by
  rw [← ofText?_eq_some_iff, ofText]
  split <;> simp [*]

/-- An ordering is read from its bare and its full name in any case of letters, and besides from the
name behind two marks or more; each other text is refused and told back; and the full name as it is
written is read. -/
theorem ofText_names (s : String) (o : Order) :
    (ofText s = .ok o ↔
      SameLetters s o.bareName ∨ SameLetters s o.text ∨ ∃ n, 2 ≤ n ∧ SameLetters s (o.marked n)) ∧
    (ofText s = .error (.unknownOrder s) ↔ ∀ p n, ¬ SameLetters s (marked p n)) ∧
    ofText o.text = .ok o := by
  refine ⟨?_, ?_, ?_⟩
  · rw [ofText_eq_ok_iff, ← marked_one]
    constructor
    · rintro ⟨_ | _ | n, same⟩
      · exact .inl same
      · exact .inr (.inl same)
      · exact .inr (.inr ⟨n + 2, by omega, same⟩)
    · rintro (same | same | ⟨n, -, same⟩)
      · exact ⟨0, same⟩
      · exact ⟨1, same⟩
      · exact ⟨n, same⟩
  · have refused : ofText s = .error (.unknownOrder s) ↔ ∀ p, ofText? s ≠ some p := by
      rw [ofText]
      split <;> simp [*]
    rw [refused]
    refine forall_congr' fun p => ?_
    rw [Ne, ofText?_eq_some_iff, not_exists]
  · rw [ofText_eq_ok_iff]
    exact ⟨1, congrArg String.toLower (marked_one o).symm⟩

end Order

end Crosschain
