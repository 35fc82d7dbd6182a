import Crosschain.Json.Shape
import Mathlib.Data.List.TakeDrop

/-!
# Reading back what was written

The compact text of a value without spelled numbers reads back as that value: string literals piece
by piece, numbers digit by digit, arrays and objects by induction on the value. Two such values with
the same text are therefore equal.
-/

namespace Crosschain.Json

open Reader

/-! ### String literals -/

/-- How a character comes back from its spelling in a literal: a control character without a letter
of its own comes as a number. -/
def pieceOf (c : Char) : Piece :=
  if 0x20 ≤ c.toNat ∨ c = '\n' ∨ c = '\t' ∨ c = '\r' ∨ c.toNat = 8 ∨ c.toNat = 12 then .char c
  else .unit c.toNat

theorem char_eq_of_toNat {c : Char} {n : Nat} (h : c.toNat = n) : c = Char.ofNat n := by
  rw [← h, Char.ofNat_toNat]

theorem hex4?_control (n : Nat) (h : n < 0x20) :
    hex4? '0' '0' (Hex.digit .lower (n / 16)) (Hex.digit .lower (n % 16)) = some n := by
  have all : ∀ n < 0x20,
      hex4? '0' '0' (Hex.digit .lower (n / 16)) (Hex.digit .lower (n % 16)) = some n := by decide
  exact all n h

theorem pieces_plain {c : Char} (h : 0x20 ≤ c.toNat) (hq : c ≠ '"') (hb : c ≠ '\\')
    (r : List Char) :
    pieces (c :: r) = (pieces r).map fun p => (.char c :: p.1, p.2) := by
  have hc : ¬ (c.toNat < 0x20 ∨ c = '\\') := by
    rintro (low | back)
    · omega
    · exact hb back
  rw [pieces.eq_def]
  split
  · simp_all
  · simp_all
  · simp_all
  · simp_all
  next c' r' _ _ _ heq =>
    obtain ⟨rfl, rfl⟩ := List.cons.inj heq
    simp only [hc, if_false]
    cases pieces r <;> rfl

theorem pieces_letter {e c : Char} (h : letterEscape? e = some c) (he : e ≠ 'u') (r : List Char) :
    pieces ('\\' :: e :: r) = (pieces r).map fun p => (.char c :: p.1, p.2) := by
  rw [pieces.eq_def]
  split
  · simp_all
  · simp_all
  · simp_all
  next e' r' _ heq =>
    simp only [List.cons.injEq, true_and] at heq
    obtain ⟨rfl, rfl⟩ := heq
    rw [h]
    cases pieces r <;> rfl
  next c' r' _ _ other heq =>
    obtain ⟨back, rest⟩ := List.cons.inj heq
    exact absurd rest.symm (other e r back.symm)

theorem pieces_control {c : Char} (h : c.toNat < 0x20) (r : List Char) :
    pieces (controlEscape c ++ r) = (pieces r).map fun p => (.unit c.toNat :: p.1, p.2) := by
  simp only [controlEscape, List.cons_append, List.nil_append]
  rw [pieces, hex4?_control c.toNat h]
  cases pieces r <;> rfl

theorem pieces_escapeChar (c : Char) (r : List Char) :
    pieces (escapeChar c ++ r) = (pieces r).map fun p => (pieceOf c :: p.1, p.2) := by
  unfold escapeChar
  split
  · subst_vars; exact pieces_letter (by decide) (by decide) r
  split
  · subst_vars; exact pieces_letter (by decide) (by decide) r
  split
  next hq hb h =>
    have hp : pieceOf c = .char c := by simp [pieceOf, h]
    rw [hp]
    exact pieces_plain h hq hb r
  split
  · subst_vars; exact pieces_letter (by decide) (by decide) r
  split
  · subst_vars; exact pieces_letter (by decide) (by decide) r
  split
  · subst_vars; exact pieces_letter (by decide) (by decide) r
  split
  next h =>
    obtain rfl := char_eq_of_toNat h
    exact pieces_letter (by decide) (by decide) r
  split
  next h =>
    obtain rfl := char_eq_of_toNat h
    exact pieces_letter (by decide) (by decide) r
  next hq hb h hn ht hr h8 h12 =>
    have hp : pieceOf c = .unit c.toNat := by
      simp only [pieceOf, h, hn, ht, hr, h8, h12, or_self, if_false]
    rw [hp]
    exact pieces_control (by omega) r

theorem pieces_escape (cs r : List Char) :
    pieces (cs.flatMap escapeChar ++ '"' :: r) = some (cs.map pieceOf, r) := by
  induction cs with
  | nil => rw [List.flatMap_nil, List.nil_append, pieces]; rfl
  | cons c cs ih =>
    rw [List.flatMap_cons, List.append_assoc, pieces_escapeChar, ih]
    rfl

theorem joinPieces_char (c : Char) (ps : List Piece) :
    joinPieces (.char c :: ps) = (joinPieces ps).map (c :: ·) := by
  rw [joinPieces]

theorem joinPieces_unit {n : Nat} (h : n < 0xD800) (ps : List Piece) :
    joinPieces (.unit n :: ps) = (joinPieces ps).map (Char.ofNat n :: ·) := by
  have high : isHigh n = false := by simp [isHigh]; omega
  have low : isLow n = false := by simp [isLow]; omega
  cases ps with
  | nil => simp [joinPieces, high, low]
  | cons p ps =>
    cases p with
    | char c => simp [joinPieces, high, low]
    | unit m => simp [joinPieces, high, low]

theorem joinPieces_map (cs : List Char) : joinPieces (cs.map pieceOf) = some cs := by
  induction cs with
  | nil => rfl
  | cons c cs ih =>
    rw [List.map_cons, pieceOf]
    split
    · rw [joinPieces_char, ih]; rfl
    next h =>
      rw [joinPieces_unit (by omega), ih, Char.ofNat_toNat]
      rfl

theorem stringBody_literal (s : Option String) (r : List Char) :
    ∃ body, (literal s).toList = '"' :: body ∧ stringBody (body ++ r) = some (s, r) := by
  cases s with
  | none =>
    refine ⟨"\\ud800\"".toList, by decide, ?_⟩
    rfl
  | some s =>
    refine ⟨s.toList.flatMap escapeChar ++ ['"'], by simp [literal, escape], ?_⟩
    rw [List.append_assoc, List.singleton_append, stringBody, pieces_escape]
    simp [joinPieces_map]

/-! ### Numbers -/

theorem isDigit_digitChar : ∀ d < 10, (Nat.digitChar d).isDigit = true := by decide

theorem isDigit_of_mem_toDigits (n : Nat) : ∀ c ∈ Nat.toDigits 10 n, c.isDigit = true := by
  induction n using Nat.strongRecOn with
  | ind n ih =>
    intro c hc
    by_cases h : n < 10
    · rw [Nat.toDigits_of_lt_base h, List.mem_singleton] at hc
      rw [hc]
      exact isDigit_digitChar n h
    · rw [Nat.toDigits_of_base_le (by omega) (by omega), List.mem_append, List.mem_singleton] at hc
      rcases hc with hc | hc
      · exact ih (n / 10) (by omega) c hc
      · rw [hc]
        exact isDigit_digitChar (n % 10) (by omega)

theorem head_toDigits (n : Nat) (hn : 0 < n) : ∀ r, Nat.toDigits 10 n ≠ '0' :: r := by
  induction n using Nat.strongRecOn with
  | ind n ih =>
    intro r hr
    by_cases h : n < 10
    · rw [Nat.toDigits_of_lt_base h] at hr
      have all : ∀ d < 10, 0 < d → Nat.digitChar d ≠ '0' := by decide
      exact all n h hn (List.cons.inj hr).1
    · rw [Nat.toDigits_of_base_le (by omega) (by omega)] at hr
      cases hd : Nat.toDigits 10 (n / 10) with
      | nil => exact absurd hd (by simp)
      | cons d ds =>
        rw [hd, List.cons_append] at hr
        obtain ⟨rfl, -⟩ := List.cons.inj hr
        exact ih (n / 10) (by omega) (by omega) ds hd

/-- What may follow a value inside a document: nothing, or a mark that no value goes on with. -/
def Stops (r : List Char) : Prop := ∀ c s, r = c :: s → c = ',' ∨ c = ']' ∨ c = '\x7d'

theorem Stops.nil : Stops [] := by
  intro c s h
  cases h

theorem Stops.cons {c : Char} (h : c = ',' ∨ c = ']' ∨ c = '\x7d') (s : List Char) :
    Stops (c :: s) := by
  intro d t e
  obtain ⟨rfl, -⟩ := List.cons.inj e
  exact h

theorem spanDigits_append {ds r : List Char} (hd : ∀ c ∈ ds, c.isDigit = true) (hr : Stops r) :
    spanDigits (ds ++ r) = (ds, r) := by
  have rest : r.span Char.isDigit = ([], r) := by
    cases r with
    | nil => rfl
    | cons c s =>
      have hc : c.isDigit = false := by
        rcases hr c s rfl with rfl | rfl | rfl <;> decide
      simp [List.span_eq_takeWhile_dropWhile, hc]
  rw [List.span_eq_takeWhile_dropWhile] at rest
  obtain ⟨taken, dropped⟩ := Prod.mk.inj rest
  rw [spanDigits, List.span_eq_takeWhile_dropWhile, List.takeWhile_append_of_pos hd,
    List.dropWhile_append_of_pos hd, taken, dropped, List.append_nil]

theorem fractionPart_of_stops {r : List Char} (h : Stops r) : fractionPart r = some ([], r) := by
  unfold fractionPart
  split
  next s => rcases h '.' s rfl with e | e | e <;> exact absurd e (by decide)
  · rfl

theorem exponentPart_of_stops {r : List Char} (h : Stops r) : exponentPart r = some ([], r) := by
  cases r with
  | nil => rfl
  | cons c s =>
    have hc : ¬ (c = 'e' ∨ c = 'E') := by
      rcases h c s rfl with rfl | rfl | rfl <;> decide
    simp only [exponentPart, hc, if_false]

theorem wholePart_toDigits (n : Nat) {r : List Char} (h : Stops r) :
    wholePart (Nat.toDigits 10 n ++ r) = some (Nat.toDigits 10 n, r) := by
  by_cases hn : n = 0
  · subst hn
    rfl
  · have digits : spanDigits (Nat.toDigits 10 n ++ r) = (Nat.toDigits 10 n, r) :=
      spanDigits_append (isDigit_of_mem_toDigits n) h
    unfold wholePart
    split
    next s e =>
      cases hd : Nat.toDigits 10 n with
      | nil => exact absurd hd (by simp)
      | cons d ds =>
        rw [hd, List.cons_append] at e
        obtain ⟨rfl, -⟩ := List.cons.inj e
        exact absurd hd (head_toDigits n (by omega) ds)
    · rw [digits]
      have some_digit : (Nat.toDigits 10 n).isEmpty = false := by
        cases hd : Nat.toDigits 10 n with
        | nil => exact absurd hd (by simp)
        | cons d ds => rfl
      simp only [some_digit]
      rfl

theorem unsigned_toDigits (n : Nat) {r : List Char} (h : Stops r) :
    unsigned (Nat.toDigits 10 n ++ r) = some (Nat.toDigits 10 n, true, r) := by
  simp [unsigned, wholePart_toDigits n h, fractionPart_of_stops h, exponentPart_of_stops h]

theorem number_toDigits (n : Nat) {r : List Char} (h : Stops r) :
    Reader.number (Nat.toDigits 10 n ++ r) = some (.nat n, r) := by
  unfold Reader.number
  split
  next s e =>
    cases hd : Nat.toDigits 10 n with
    | nil => exact absurd hd (by simp)
    | cons d ds =>
      have digit : d.isDigit = true := isDigit_of_mem_toDigits n d (by rw [hd]; simp)
      rw [hd, List.cons_append] at e
      obtain ⟨rfl, -⟩ := List.cons.inj e
      exact absurd digit (by decide)
  · simp [unsigned_toDigits n h, Nat.ofDigitChars_ten_toDigits]

/-! ### Values -/

mutual

/-- No number of the value is kept as it is spelled. -/
def Plain : Json → Prop
  | .number _ => False
  | .array items => PlainItems items
  | .object members => PlainMembers members
  | _ => True

def PlainItems : List Json → Prop
  | [] => True
  | j :: r => Plain j ∧ PlainItems r

def PlainMembers : List (Option String × Json) → Prop
  | [] => True
  | (_, v) :: r => Plain v ∧ PlainMembers r

end

def commaed : List String → List Char
  | [] => []
  | [s] => s.toList
  | s :: t :: r => s.toList ++ ',' :: commaed (t :: r)

theorem toList_intercalate (l : List String) : (",".intercalate l).toList = commaed l := by
  have glue : ∀ (r : List String) (s : String),
      (",".intercalate (s :: r)).toList = commaed (s :: r) := by
    intro r
    induction r with
    | nil => intro s; rfl
    | cons t r ih =>
      intro s
      have step : ",".intercalate (s :: t :: r) = ",".intercalate ((s ++ "," ++ t) :: r) := rfl
      rw [step, ih]
      cases r with
      | nil => simp [commaed]
      | cons u r => simp [commaed]
  cases l with
  | nil => rfl
  | cons s r => exact glue r s

theorem skipSpace_cons {c : Char} (h : isSpace c = false) (r : List Char) :
    skipSpace (c :: r) = c :: r := by
  simp [skipSpace, h]

theorem render_head (j : Json) (h : Plain j) :
    ∃ c t, (render j).toList = c :: t ∧ isSpace c = false ∧ c ≠ ']' := by
  cases j with
  | null => exact ⟨'n', "ull".toList, by rw [render]; decide, by decide, by decide⟩
  | bool b =>
    cases b
    · exact ⟨'f', "alse".toList, by rw [render]; decide, by decide, by decide⟩
    · exact ⟨'t', "rue".toList, by rw [render]; decide, by decide, by decide⟩
  | nat n =>
    cases hd : Nat.toDigits 10 n with
    | nil => exact absurd hd (by simp)
    | cons d ds =>
      have digit : d.isDigit = true := isDigit_of_mem_toDigits n d (by rw [hd]; simp)
      refine ⟨d, ds, by rw [render, Nat.toList_repr, hd], ?_, ?_⟩
      · by_contra blank
        simp only [isSpace, Bool.not_eq_false, Bool.or_eq_true, beq_iff_eq] at blank
        rcases blank with ((rfl | rfl) | rfl) | rfl <;> exact absurd digit (by decide)
      · rintro rfl
        exact absurd digit (by decide)
  | number s => exact h.elim
  | text s =>
    obtain ⟨body, text, -⟩ := stringBody_literal s []
    exact ⟨'"', body, by rw [render, text], by decide, by decide⟩
  | array items =>
    refine ⟨'[', commaed (renderItems items) ++ [']'], ?_, by decide, by decide⟩
    rw [render, String.toList_append, String.toList_append, toList_intercalate]
    rfl
  | object members =>
    refine ⟨'\x7b', commaed (renderMembers members) ++ ['\x7d'], ?_, by decide, by decide⟩
    rw [render, String.toList_append, String.toList_append, toList_intercalate]
    rfl

theorem length_render_pos (j : Json) (h : Plain j) : 0 < (render j).toList.length := by
  obtain ⟨c, t, text, -⟩ := render_head j h
  rw [text]
  exact Nat.succ_pos _

theorem value_nat (m n : Nat) {r : List Char} (h : Stops r) :
    value (m + 1) ((render (.nat n)).toList ++ r) = some (.nat n, r) := by
  obtain ⟨c, t, text, space, -⟩ := render_head (.nat n) trivial
  rw [render, Nat.toList_repr] at text ⊢
  have digit : c.isDigit = true := isDigit_of_mem_toDigits n c (by rw [text]; simp)
  rw [value, ← number_toDigits n h, text, List.cons_append, skipSpace_cons space]
  split <;> first | rfl | simp_all

theorem value_text (m : Nat) (s : Option String) (r : List Char) :
    value (m + 1) ((render (.text s)).toList ++ r) = some (.text s, r) := by
  obtain ⟨body, text, read⟩ := stringBody_literal s r
  rw [render, text, value, List.cons_append, skipSpace_cons (by decide)]
  simp [read]

mutual

/-- A value is read back from its text, whatever stopping mark follows it. -/
theorem value_render : (j : Json) → Plain j → ∀ (n : Nat) (r : List Char),
    (render j).toList.length ≤ n → Stops r → value n ((render j).toList ++ r) = some (j, r)
  | .null, h, n, r, hn, _ => by
    obtain ⟨m, rfl⟩ := Nat.exists_eq_add_one.2 (Nat.lt_of_lt_of_le (length_render_pos _ h) hn)
    have text : (render .null).toList = ['n', 'u', 'l', 'l'] := by rw [render]; decide
    simp only [text, List.cons_append, List.nil_append]
    rw [value, skipSpace_cons (by decide)]
    rfl
  | .bool true, h, n, r, hn, _ => by
    obtain ⟨m, rfl⟩ := Nat.exists_eq_add_one.2 (Nat.lt_of_lt_of_le (length_render_pos _ h) hn)
    have text : (render (.bool true)).toList = ['t', 'r', 'u', 'e'] := by rw [render]; decide
    simp only [text, List.cons_append, List.nil_append]
    rw [value, skipSpace_cons (by decide)]
    rfl
  | .bool false, h, n, r, hn, _ => by
    obtain ⟨m, rfl⟩ := Nat.exists_eq_add_one.2 (Nat.lt_of_lt_of_le (length_render_pos _ h) hn)
    have text : (render (.bool false)).toList = ['f', 'a', 'l', 's', 'e'] := by
      rw [render]; decide
    simp only [text, List.cons_append, List.nil_append]
    rw [value, skipSpace_cons (by decide)]
    rfl
  | .nat k, h, n, r, hn, hr => by
    obtain ⟨m, rfl⟩ := Nat.exists_eq_add_one.2 (Nat.lt_of_lt_of_le (length_render_pos _ h) hn)
    exact value_nat m k hr
  | .number _, h, _, _, _, _ => h.elim
  | .text s, h, n, r, hn, _ => by
    obtain ⟨m, rfl⟩ := Nat.exists_eq_add_one.2 (Nat.lt_of_lt_of_le (length_render_pos _ h) hn)
    exact value_text m s r
  | .array l, h, n, r, hn, _ => by
    have text : (render (.array l)).toList = '[' :: (commaed (renderItems l) ++ [']']) := by
      rw [render, String.toList_append, String.toList_append, toList_intercalate]
      rfl
    rw [text, List.length_cons, List.length_append, List.length_singleton] at hn
    obtain ⟨m, rfl⟩ : ∃ m, n = m + 1 := Nat.exists_eq_add_one.2 (by omega)
    rw [text, List.cons_append, List.append_assoc, List.singleton_append, value,
      skipSpace_cons (by decide)]
    cases l with
    | nil => simp [renderItems, commaed, skipSpace_cons (show isSpace ']' = false by decide)]
    | cons j js =>
      have inner := items_render (j :: js) (by simp) h m r (by omega)
      -- No item starts with the bracket that would end an array without items.
      obtain ⟨c, t, first, space, open_⟩ := render_head j h.1
      obtain ⟨t', more⟩ : ∃ t', commaed (renderItems (j :: js)) = c :: t' := by
        cases js with
        | nil => exact ⟨t, by simp [renderItems, commaed, first]⟩
        | cons k ks => exact ⟨_, by simp [renderItems, commaed, first]; rfl⟩
      rw [more, List.cons_append] at inner ⊢
      simp only [skipSpace_cons space]
      split
      · simp_all
      · rw [inner]; rfl
  | .object l, h, n, r, hn, _ => by
    have text :
        (render (.object l)).toList = '\x7b' :: (commaed (renderMembers l) ++ ['\x7d']) := by
      rw [render, String.toList_append, String.toList_append, toList_intercalate]
      rfl
    rw [text, List.length_cons, List.length_append, List.length_singleton] at hn
    obtain ⟨m, rfl⟩ : ∃ m, n = m + 1 := Nat.exists_eq_add_one.2 (by omega)
    rw [text, List.cons_append, List.append_assoc, List.singleton_append, value,
      skipSpace_cons (by decide)]
    cases l with
    | nil => simp [renderMembers, commaed, skipSpace_cons (show isSpace '\x7d' = false by decide)]
    | cons p ps =>
      have inner := members_render (p :: ps) (by simp) h m r (by omega)
      obtain ⟨k, v⟩ := p
      obtain ⟨body, first, -⟩ := stringBody_literal k []
      obtain ⟨t', more⟩ : ∃ t', commaed (renderMembers ((k, v) :: ps)) = '"' :: t' := by
        cases ps with
        | nil => exact ⟨_, by simp [renderMembers, commaed, first]; rfl⟩
        | cons q qs =>
          obtain ⟨k', v'⟩ := q
          exact ⟨_, by simp [renderMembers, commaed, first]; rfl⟩
      rw [more, List.cons_append] at inner ⊢
      simp only [skipSpace_cons (show isSpace '"' = false by decide)]
      split
      · simp_all
      · rw [inner]; rfl

theorem items_render : (l : List Json) → l ≠ [] → PlainItems l → ∀ (n : Nat) (r : List Char),
    (commaed (renderItems l)).length + 1 ≤ n →
    items n (commaed (renderItems l) ++ ']' :: r) = some (l, r)
  | [], h, _, _, _, _ => absurd rfl h
  | [j], _, h, n, r, hn => by
    simp only [renderItems, commaed] at hn ⊢
    obtain ⟨m, rfl⟩ : ∃ m, n = m + 1 := Nat.exists_eq_add_one.2 (by omega)
    rw [items, value_render j h.1 m _ (by omega) (.cons (by simp) r)]
    simp only [skipSpace_cons (show isSpace ']' = false by decide)]
  | j :: k :: ks, _, h, n, r, hn => by
    simp only [renderItems, commaed, List.length_append, List.length_cons] at hn
    obtain ⟨m, rfl⟩ : ∃ m, n = m + 1 := Nat.exists_eq_add_one.2 (by omega)
    have rest := items_render (k :: ks) (by simp) h.2 m r (by
      simp only [renderItems]
      omega)
    simp only [renderItems, commaed, List.append_assoc, List.cons_append] at rest ⊢
    rw [items, value_render j h.1 m _ (by omega) (.cons (by simp) _)]
    simp only [skipSpace_cons (show isSpace ',' = false by decide), rest, Option.map_some]

theorem members_render : (l : List (Option String × Json)) → l ≠ [] → PlainMembers l →
    ∀ (n : Nat) (r : List Char), (commaed (renderMembers l)).length + 1 ≤ n →
    members n (commaed (renderMembers l) ++ '\x7d' :: r) = some (l, r)
  | [], h, _, _, _, _ => absurd rfl h
  | [(k, v)], _, h, n, r, hn => by
    obtain ⟨body, first, read⟩ := stringBody_literal k
      (':' :: ((render v).toList ++ '\x7d' :: r))
    simp only [renderMembers, commaed, String.toList_append, first, List.length_append,
      List.length_cons] at hn
    obtain ⟨m, rfl⟩ : ∃ m, n = m + 1 := Nat.exists_eq_add_one.2 (by omega)
    have inner := value_render v h.1 m ('\x7d' :: r) (by omega) (.cons (by simp) r)
    simp only [renderMembers, commaed, String.toList_append, first, List.append_assoc]
    rw [members, List.cons_append, skipSpace_cons (by decide)]
    simp only [show ":".toList = [':'] from rfl, List.singleton_append, read,
      skipSpace_cons (show isSpace ':' = false by decide), inner,
      skipSpace_cons (show isSpace '\x7d' = false by decide)]
  | (k, v) :: (k', v') :: ps, _, h, n, r, hn => by
    obtain ⟨body, first, read⟩ := stringBody_literal k
      (':' :: ((render v).toList ++ ',' :: (commaed (renderMembers ((k', v') :: ps)) ++ '\x7d' :: r)))
    rw [renderMembers, renderMembers, commaed] at hn
    simp only [String.toList_append, first, List.length_append, List.length_cons] at hn
    obtain ⟨m, rfl⟩ : ∃ m, n = m + 1 := Nat.exists_eq_add_one.2 (by omega)
    have inner := value_render v h.1 m
      (',' :: (commaed (renderMembers ((k', v') :: ps)) ++ '\x7d' :: r)) (by omega)
      (.cons (by simp) _)
    have rest := members_render ((k', v') :: ps) (by simp) h.2 m r (by
      rw [renderMembers]
      omega)
    have text : commaed (renderMembers ((k, v) :: (k', v') :: ps)) =
        (literal k).toList ++ ':' :: ((render v).toList ++
          ',' :: commaed (renderMembers ((k', v') :: ps))) := by
      simp [renderMembers, commaed]
    rw [text, first, members]
    simp only [List.cons_append, List.append_assoc,
      skipSpace_cons (show isSpace '"' = false by decide), read,
      skipSpace_cons (show isSpace ':' = false by decide), inner,
      skipSpace_cons (show isSpace ',' = false by decide), rest, Option.map_some]

end

/-! ### Documents -/

theorem parse?_render (j : Json) (h : Plain j) : parse? (render j) = some j := by
  have read := value_render j h (2 * (render j).toList.length + 1) [] (by omega) .nil
  rw [List.append_nil] at read
  simp [parse?, ofChars?, read, skipSpace]

end Crosschain.Json
