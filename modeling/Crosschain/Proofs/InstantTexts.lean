import Crosschain.Proofs.JsonRoundTrip
import Crosschain.Time.Instant
import Mathlib.Algebra.Group.Nat.Defs

/-!
# Instants are known by their texts

A day is the day of its date, so a date stands for one day. The text of an instant is a row of
numbers with a mark that is no digit behind each, so the numbers can be read off it: leading zeros
do not count, and the places of the second say by their number which part of the second they hold.
-/

namespace Crosschain

/-! ### Days and their dates -/

namespace Date

/-- The date of a day of a year, the year taken from March on and its days counted from zero. -/
def ofMarch (year day : Int) : Date :=
  let fromMarch := (5 * day + 2) / 153
  let month := if fromMarch < 10 then fromMarch + 3 else fromMarch - 9
  ⟨year + (if month ≤ 2 then 1 else 0), month.toNat, (day - (153 * fromMarch + 2) / 5 + 1).toNat⟩

/-- The year of a cycle that a day of the cycle lies in. -/
def yearOfCycle (day : Int) : Int := (day - day / 1460 + day / 36524 - day / 146096) / 365

/-- Which day of its year a day of a cycle is, both counted from zero. -/
def dayOfYear (day : Int) : Int :=
  day - (365 * yearOfCycle day + yearOfCycle day / 4 - yearOfCycle day / 100)

theorem ofDays_eq (days : Int) : ofDays days =
    ofMarch ((days + shift) / cycle * 400 + yearOfCycle ((days + shift) % cycle))
      (dayOfYear ((days + shift) % cycle)) := rfl

theorem toDays_ofMarch {year day : Int} (low : 0 ≤ day) (high : day ≤ 365) :
    (ofMarch year day).toDays = year / 400 * cycle
      + (365 * (year % 400) + year % 400 / 4 - year % 400 / 100 + day) - shift := by
  have ofMonth : (((day - (153 * ((5 * day + 2) / 153) + 2) / 5 + 1).toNat : Nat) : Int) =
      day - (153 * ((5 * day + 2) / 153) + 2) / 5 + 1 := Int.toNat_of_nonneg (by omega)
  by_cases spring : (5 * day + 2) / 153 < 10
  · have late : ¬ (5 * day + 2) / 153 + 3 ≤ 2 := by omega
    have lateNat : ¬ ((5 * day + 2) / 153 + 3).toNat ≤ 2 := by omega
    have fromMarch : (((((5 * day + 2) / 153 + 3).toNat + 9 : Nat) : Int)) % 12 =
        (5 * day + 2) / 153 := by omega
    simp only [ofMarch, toDays, if_pos spring, if_neg late, if_neg lateNat, Int.add_zero,
      fromMarch, ofMonth]
    omega
  · have early : (5 * day + 2) / 153 - 9 ≤ 2 := by omega
    have earlyNat : ((5 * day + 2) / 153 - 9).toNat ≤ 2 := by omega
    have fromMarch : (((((5 * day + 2) / 153 - 9).toNat + 9 : Nat) : Int)) % 12 =
        (5 * day + 2) / 153 := by omega
    simp only [ofMarch, toDays, if_neg spring, if_pos early, if_pos earlyNat, Int.add_sub_cancel,
      fromMarch, ofMonth]
    omega

section Cycle

variable {day : Int}

theorem yearOfCycle_bounds (low : 0 ≤ day) (high : day < 146097) :
    0 ≤ yearOfCycle day ∧ yearOfCycle day < 400 := by
  unfold yearOfCycle
  omega

theorem century_cases (low : 0 ≤ day) (high : day < 146096) :
    day / 36524 = 0 ∨ day / 36524 = 1 ∨ day / 36524 = 2 ∨ day / 36524 = 3 := by
  omega

/-- But for the last day of a cycle, its centuries have the same number of days. -/
theorem yearOfCycle_div (low : 0 ≤ day) (high : day < 146096) :
    yearOfCycle day / 100 = day / 36524 := by
  unfold yearOfCycle
  obtain first | second | third | fourth := century_cases low high <;> omega

theorem dayOfYear_bounds (low : 0 ≤ day) (high : day < 146097) :
    0 ≤ dayOfYear day ∧ dayOfYear day ≤ 365 := by
  by_cases last : day = 146096
  · subst last
    decide
  · have notLast : day < 146096 := by omega
    unfold dayOfYear
    rw [yearOfCycle_div low notLast]
    unfold yearOfCycle
    obtain first | second | third | fourth := century_cases low notLast <;> omega

end Cycle

theorem toDays_ofDays (days : Int) : (ofDays days).toDays = days := by
  have low : 0 ≤ (days + shift) % cycle := Int.emod_nonneg _ (by decide)
  have high : (days + shift) % cycle < 146097 := Int.emod_lt_of_pos _ (by decide)
  obtain ⟨dayLow, dayHigh⟩ := dayOfYear_bounds low high
  obtain ⟨yearLow, yearHigh⟩ := yearOfCycle_bounds low high
  have parts : dayOfYear ((days + shift) % cycle) = (days + shift) % cycle -
      (365 * yearOfCycle ((days + shift) % cycle) + yearOfCycle ((days + shift) % cycle) / 4 -
        yearOfCycle ((days + shift) % cycle) / 100) := rfl
  rw [ofDays_eq, toDays_ofMarch dayLow dayHigh, parts]
  generalize yearOfCycle ((days + shift) % cycle) = year at yearLow yearHigh
  have whole : ((days + shift) / cycle * 400 + year) / 400 = (days + shift) / cycle := by omega
  have rest : ((days + shift) / cycle * 400 + year) % 400 = year := by omega
  have sum := Int.emod_add_mul_ediv (days + shift) cycle
  rw [whole, rest, Int.mul_comm]
  omega

theorem ofDays_injective {m n : Int} (same : ofDays m = ofDays n) : m = n := by
  rw [← toDays_ofDays m, same, toDays_ofDays]

end Date

/-! ### Numbers in a text -/

namespace Instant

variable {v w m n : Nat} {r s : List Char}

/-- What may follow a number: nothing, or a mark that is no digit. -/
def EndsNumber (r : List Char) : Prop := ∀ c s, r = c :: s → c.isDigit = false

theorem EndsNumber.cons {c : Char} (mark : c.isDigit = false) (s : List Char) :
    EndsNumber (c :: s) := by
  intro d t same
  obtain ⟨rfl, -⟩ := List.cons.inj same
  exact mark

theorem toList_padded (w n : Nat) : (padded w n).toList =
    List.replicate (w - n.repr.length) '0' ++ Nat.toDigits 10 n := by
  rw [padded, String.toList_append, String.toList_ofList, Nat.toList_repr]

theorem isDigit_of_mem_padded (w n : Nat) : ∀ c ∈ (padded w n).toList, c.isDigit = true := by
  intro c mem
  rw [toList_padded, List.mem_append] at mem
  obtain zero | digit := mem
  · rw [List.eq_of_mem_replicate zero]
    decide
  · exact Json.isDigit_of_mem_toDigits n c digit

theorem ofDigitChars_padded (w n : Nat) : Nat.ofDigitChars 10 (padded w n).toList 0 = n := by
  rw [toList_padded, Nat.ofDigitChars_append, Nat.ofDigitChars_replicate_zero, Nat.mul_zero,
    Nat.ofDigitChars_ten_toDigits]

theorem padded_ne_nil (w n : Nat) : (padded w n).toList ≠ [] := by
  rw [toList_padded]
  exact List.append_ne_nil_of_right_ne_nil _ Nat.toDigits_ne_nil

theorem padded_injective (same : padded v m = padded w n) : m = n := by
  rw [← ofDigitChars_padded v m, same, ofDigitChars_padded]

theorem length_padded (wide : 0 < w) (fits : n < 10 ^ w) : (padded w n).toList.length = w := by
  have short : n.repr.length ≤ w := (Nat.length_repr_le_iff wide).2 fits
  have digits : (Nat.toDigits 10 n).length = n.repr.length := by
    rw [← Nat.toList_repr, String.length_toList]
  rw [toList_padded, List.length_append, List.length_replicate, digits]
  omega

theorem EndsNumber.takeWhile (ends : EndsNumber r) : r.takeWhile Char.isDigit = [] := by
  cases r with
  | nil => rfl
  | cons c s => rw [List.takeWhile_cons, ends c s rfl, if_neg Bool.false_ne_true]

/-- The digits of a number and what follows it are told apart. -/
theorem padded_append_cancel (hr : EndsNumber r) (hs : EndsNumber s)
    (same : (padded v m).toList ++ r = (padded w n).toList ++ s) :
    padded v m = padded w n ∧ r = s := by
  have digits := congrArg (List.takeWhile Char.isDigit) same
  rw [List.takeWhile_append_of_pos (isDigit_of_mem_padded v m),
    List.takeWhile_append_of_pos (isDigit_of_mem_padded w n), hr.takeWhile, hs.takeWhile,
    List.append_nil, List.append_nil] at digits
  rw [digits] at same
  exact ⟨String.toList_inj.1 digits, List.append_cancel_left same⟩

theorem padded_cons_cancel {c : Char} (mark : c.isDigit = false)
    (same : (padded v m).toList ++ c :: r = (padded w n).toList ++ c :: s) : m = n ∧ r = s := by
  obtain ⟨number, rest⟩ := padded_append_cancel (.cons mark r) (.cons mark s) same
  exact ⟨padded_injective number, (List.cons.inj rest).2⟩

theorem takeWhile_marks_append {l : List Char} (marks : ∀ c ∈ l, c.isDigit = false) (w n : Nat)
    (r : List Char) :
    (l ++ ((padded w n).toList ++ r)).takeWhile (fun c => !c.isDigit) = l := by
  have front : ∀ c ∈ l, (!c.isDigit) = true := fun c mem => by rw [marks c mem]; rfl
  obtain ⟨d, ds, shape⟩ := List.exists_cons_of_ne_nil (padded_ne_nil w n)
  have digit := isDigit_of_mem_padded w n d (by rw [shape]; exact List.mem_cons_self)
  rw [List.takeWhile_append_of_pos front, shape, List.cons_append, List.takeWhile_cons, digit,
    Bool.not_true, if_neg Bool.false_ne_true, List.append_nil]

theorem marks_append_cancel {a b : List Char} (ha : ∀ c ∈ a, c.isDigit = false)
    (hb : ∀ c ∈ b, c.isDigit = false)
    (same : a ++ ((padded v m).toList ++ r) = b ++ ((padded w n).toList ++ s)) :
    a = b ∧ (padded v m).toList ++ r = (padded w n).toList ++ s := by
  have marks := congrArg (List.takeWhile fun c => !c.isDigit) same
  rw [takeWhile_marks_append ha, takeWhile_marks_append hb] at marks
  rw [marks] at same
  exact ⟨marks, List.append_cancel_left same⟩

/-! ### Years and places of a second -/

def yearSign (year : Int) : List Char :=
  if 0 ≤ year ∧ year ≤ 9999 then [] else if year < 0 then ['-'] else ['+']

theorem toList_yearText (y : Int) :
    (yearText y).toList = yearSign y ++ (padded 4 y.natAbs).toList := by
  unfold yearText yearSign
  split
  next short =>
    have same : y.toNat = y.natAbs := by omega
    rw [same, List.nil_append]
  next =>
    rw [String.toList_append]
    split <;> rfl

theorem isDigit_of_mem_yearSign (y : Int) : ∀ c ∈ yearSign y, c.isDigit = false := by
  unfold yearSign
  split
  next => simp
  split <;> simp

theorem yearSign_eq_minus_iff (y : Int) : yearSign y = ['-'] ↔ y < 0 := by
  unfold yearSign
  split
  next short => exact ⟨fun same => absurd same (by decide), fun negative => by omega⟩
  split
  next negative => exact ⟨fun _ => negative, fun _ => rfl⟩
  next nonneg => exact ⟨fun same => absurd same (by decide), fun negative => absurd negative nonneg⟩

theorem eq_of_yearSign_eq {y z : Int} (sign : yearSign y = yearSign z)
    (size : y.natAbs = z.natAbs) : y = z := by
  have negative : y < 0 ↔ z < 0 := by
    rw [← yearSign_eq_minus_iff, sign, yearSign_eq_minus_iff]
  omega

theorem yearText_cons_cancel {y z : Int} {c : Char} (mark : c.isDigit = false)
    (same : (yearText y).toList ++ c :: r = (yearText z).toList ++ c :: s) : y = z ∧ r = s := by
  rw [toList_yearText, toList_yearText, List.append_assoc, List.append_assoc] at same
  obtain ⟨sign, numbers⟩ := marks_append_cancel (isDigit_of_mem_yearSign y)
    (isDigit_of_mem_yearSign z) same
  obtain ⟨size, rest⟩ := padded_cons_cancel mark numbers
  exact ⟨eq_of_yearSign_eq sign size, rest⟩

/-- A part of a second is left out when it is zero; else it is a number of places behind a point. -/
theorem toList_fractionText (small : n < perSecond) :
    (n = 0 ∧ (fractionText n).toList = []) ∨
      ∃ w m, 0 < w ∧ m < 10 ^ w ∧ n = m * 10 ^ (9 - w) ∧
        (fractionText n).toList = '.' :: (padded w m).toList := by
  unfold perSecond at small
  unfold fractionText
  split
  next zero => exact .inl ⟨zero, rfl⟩
  split
  next thousandths =>
    exact .inr ⟨3, n / 1000000, by omega, by omega, by omega, String.toList_append⟩
  split
  next millionths => exact .inr ⟨6, n / 1000, by omega, by omega, by omega, String.toList_append⟩
  next => exact .inr ⟨9, n, by omega, by omega, by omega, String.toList_append⟩

theorem endsNumber_fractionText_append (small : n < perSecond) (hr : EndsNumber r) :
    EndsNumber ((fractionText n).toList ++ r) := by
  obtain ⟨-, text⟩ | ⟨w, m, -, -, -, text⟩ := toList_fractionText small
  · rw [text]
    exact hr
  · rw [text]
    exact .cons rfl _

theorem fractionText_append_cancel {c : Char} (hm : m < perSecond) (hn : n < perSecond)
    (mark : c.isDigit = false) (notPoint : c ≠ '.')
    (same : (fractionText m).toList ++ c :: r = (fractionText n).toList ++ c :: s) : m = n := by
  obtain ⟨mZero, mText⟩ | ⟨v, a, vPos, aFits, mValue, mText⟩ := toList_fractionText hm <;>
    obtain ⟨nZero, nText⟩ | ⟨w, b, wPos, bFits, nValue, nText⟩ := toList_fractionText hn <;>
    rw [mText, nText] at same
  · exact mZero.trans nZero.symm
  · exact absurd (List.cons.inj same).1 notPoint
  · exact absurd (List.cons.inj same).1.symm notPoint
  · obtain ⟨number, -⟩ := padded_append_cancel (.cons mark r) (.cons mark s) (List.cons.inj same).2
    -- The number of places says what a place counts for.
    have places : v = w := by
      rw [← length_padded vPos aFits, number, length_padded wPos bFits]
    have value : a = b := padded_injective number
    rw [mValue, nValue, places, value]

/-! ### Instants -/

/-- The numbers and marks that the text of an instant without a leap second is made of. -/
theorem toList_zuluText {i : Instant} (ordinary : i.nanos < perSecond) :
    i.zuluText.toList = (yearText i.date.year).toList ++ '-' :: ((padded 2 i.date.month).toList ++
      '-' :: ((padded 2 i.date.day).toList ++ 'T' ::
        ((padded 2 ((i.secs % perDay).toNat / 3600)).toList ++ ':' ::
          ((padded 2 ((i.secs % perDay).toNat / 60 % 60)).toList ++ ':' ::
            ((padded 2 ((i.secs % perDay).toNat % 60)).toList ++
              ((fractionText i.nanos).toList ++ ['Z'])))))) := by
  have noLeap : ¬ perSecond ≤ i.nanos := by omega
  have hyphen : "-".toList = ['-'] := rfl
  have time : "T".toList = ['T'] := rfl
  have colon : ":".toList = [':'] := rfl
  have zulu : "Z".toList = ['Z'] := rfl
  simp only [zuluText, localText, if_neg noLeap, Nat.add_zero, Nat.mod_eq_of_lt ordinary,
    String.toList_append, hyphen, time, colon, zulu, List.append_assoc, List.cons_append,
    List.nil_append]

theorem zuluText_injective {i j : Instant} (hi : i.nanos < perSecond) (hj : j.nanos < perSecond)
    (same : i.zuluText = j.zuluText) : i = j := by
  have texts := congrArg String.toList same
  rw [toList_zuluText hi, toList_zuluText hj] at texts
  have zulu : EndsNumber ['Z'] := .cons rfl []
  have hyphen : '-'.isDigit = false := rfl
  have colon : ':'.isDigit = false := rfl
  obtain ⟨year, texts⟩ := yearText_cons_cancel hyphen texts
  obtain ⟨month, texts⟩ := padded_cons_cancel hyphen texts
  obtain ⟨day, texts⟩ := padded_cons_cancel (c := 'T') rfl texts
  obtain ⟨hour, texts⟩ := padded_cons_cancel colon texts
  obtain ⟨minute, texts⟩ := padded_cons_cancel colon texts
  obtain ⟨second, texts⟩ := padded_append_cancel (endsNumber_fractionText_append hi zulu)
    (endsNumber_fractionText_append hj zulu) texts
  have second := padded_injective second
  have nanos := fractionText_append_cancel hi hj rfl (by decide) texts
  have date : i.date = j.date := by
    rw [Date.mk.injEq]
    exact ⟨year, month, day⟩
  have days : i.secs / perDay = j.secs / perDay := Date.ofDays_injective date
  have ofDay : (i.secs % perDay).toNat = (j.secs % perDay).toNat := by omega
  have secs : i.secs = j.secs := by
    unfold perDay at days ofDay
    omega
  rw [Instant.mk.injEq]
  exact ⟨secs, nanos⟩

end Instant

end Crosschain
