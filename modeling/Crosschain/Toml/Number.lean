import Crosschain.Toml.Text

/-!
# Numbers, truth values and dates of settings documents

Values spelled by words. No setting takes one, so all that is kept of them is what follows: the
module says which of them are well formed.
-/

namespace Crosschain.Toml

/-! ### Digits -/

/-- The digits that follow another one, without the marks between them; `mark` tells that a mark
stands in front. -/
def moreDigits? (isDigit : Char → Bool) (mark : Bool) :
    List Char → Option (List Char × List Char)
  | [] => if mark then none else some ([], [])
  | c :: r =>
    if isDigit c then (moreDigits? isDigit false r).map fun (ds, r) => (c :: ds, r)
    else if mark then none
    else if c = '_' then moreDigits? isDigit true r
    else some ([], c :: r)

/-- At least one digit. More than one begin with zero only where that is allowed. -/
def digits? (isDigit : Char → Bool) (zeros : Bool) : List Char → Option (List Char × List Char)
  | [] => none
  | c :: r =>
    if isDigit c then do
      let (ds, r) ← moreDigits? isDigit false r
      if c = '0' ∧ ¬ zeros ∧ ¬ ds.isEmpty then none else pure (c :: ds, r)
    else none

/-- The decimal digits in front, zeros allowed. -/
def decimals? (cs : List Char) : Option (List Char × List Char) := digits? Char.isDigit true cs

/-- Numbers have to stay below this, or above its negative; that itself is a number too. -/
def integerBound : Nat := 0x8000000000000000

/-- Whether a word holds nothing but digits of a base, which spell a number within bounds. -/
def isBased (base : Nat) (cs : List Char) : Bool :=
  let value (c : Char) : Nat := (hexValue? c).getD base
  match digits? (fun c => value c < base) true cs with
  | some (ds, []) => ds.foldl (fun n d => n * base + value d) 0 < integerBound
  | _ => false

/-- Whether a word is a decimal integer within bounds. -/
def isDecimal (w : List Char) : Bool :=
  let (negative, cs) := match w with
    | '-' :: r => (true, r)
    | r => (false, r)
  match digits? Char.isDigit false cs with
  | some (ds, []) =>
    let n := Nat.ofDigitChars 10 ds 0
    n < integerBound || (negative && n == integerBound)
  | _ => false

/-! ### Fractions and exponents -/

/-- The least number that a floating-point number of 64 bits does not reach: half a step above the
greatest one. -/
def floatBound : Nat := (Nat.pow 2 54 - 1) * Nat.pow 2 970

/-- Whether so many powers of ten stay within the reach of floating-point numbers. -/
def isFinite (n : Nat) (exponent : Int) : Bool :=
  let size : Int := (Nat.toDigits 10 n).length + exponent
  n == 0 || size ≤ 308 || (size == 309
    && n * Nat.pow 10 exponent.toNat < floatBound * Nat.pow 10 (-exponent).toNat)

/-- An exponent that a word ends in, or that goes on behind it after a plus sign. -/
def exponent? (tail rest : List Char) : Option (Int × List Char) :=
  let whole (cs : List Char) : Option Int :=
    match decimals? cs with
    | some (ds, []) => some (Nat.ofDigitChars 10 ds 0)
    | _ => none
  match tail with
  | [] => some (0, rest)
  | c :: t =>
    if c = 'e' ∨ c = 'E' then
      match t with
      | [] => do
        let (w, r) ← word? (match rest with
          | '+' :: r => r
          | r => r)
        pure (← whole w, r)
      | '-' :: t => do pure (-(← whole t), rest)
      | t => do pure (← whole t, rest)
    else none

/-- A number with a fraction or an exponent: its first word, the word behind the point if there is
one, and what follows. -/
def float? (w : List Char) (fraction : Option (List Char)) (rest : List Char) :
    Option (List Char) := do
  let (ds, tail) ← digits? Char.isDigit false (match w with
    | '-' :: r => r
    | r => r)
  let (fs, tail) ← match fraction with
    | some f => if tail.isEmpty then decimals? f else none
    | none => pure ([], tail)
  let (e, r) ← exponent? tail rest
  if isFinite (Nat.ofDigitChars 10 (ds ++ fs) 0) (e - fs.length) then pure r else none

/-- The words for what is no finite number. -/
def namedNumbers : List (List Char) :=
  ["inf".toList, "-inf".toList, "nan".toList, "-nan".toList]

def number? (w rest : List Char) : Option (List Char) :=
  match w with
  | '0' :: 'x' :: r => if isBased 16 r then some rest else none
  | '0' :: 'o' :: r => if isBased 8 r then some rest else none
  | '0' :: 'b' :: r => if isBased 2 r then some rest else none
  | w =>
    if w.contains 'e' || w.contains 'E' then float? w none rest
    else match rest with
      | '.' :: r => do
        let (f, r) ← word? r
        float? w (some f) r
      | rest => if namedNumbers.contains w || isDecimal w then some rest else none

/-! ### Dates -/

/-- Whether a word begins a date or a time: it parts a date from a time, or has a hyphen that is
neither a sign nor belongs to an exponent. -/
def isDated (w : List Char) : Bool :=
  w.contains 'T' || w.contains 't' || (w.tail.contains '-'
    && !(w.zip w.tail).contains ('e', '-') && !(w.zip w.tail).contains ('E', '-'))

def markedWord? (mark : Char) (cs : List Char) : Option (List Char) :=
  match cs with
  | [] => some []
  | c :: r => if c = mark then (word? r).map Prod.snd else some (c :: r)

/-- The minutes of a time, its seconds with their fraction, and an offset with its minutes. The hours
of an offset with a minus sign belong to the word in front. -/
def minutes? (cs : List Char) : Option (List Char) := do
  let (_, r) ← word? cs
  match r with
  | ':' :: r =>
    let (_, r) ← word? r
    let r ← markedWord? '.' r
    let r ← markedWord? '+' r
    markedWord? ':' r
  | _ => none

/-- The rest of a date or time behind its first word; `colon` tells that a colon followed it. One
blank may part a date from an hour. -/
def date? (colon : Bool) (cs : List Char) : Option (List Char) :=
  let r := match cs with
    | ' ' :: r => ((word? r).map Prod.snd).getD cs
    | r => r
  if colon then minutes? r
  else match r with
    | ':' :: r => minutes? r
    | r => some r

/-! ### Values of words -/

def worded? (cs : List Char) : Option (List Char) := do
  let (w, r) ← word? cs
  if w = "true".toList ∨ w = "false".toList then pure r
  else if namedNumbers.contains w || w.take 1 == ['-'] || (w.take 1).any Char.isDigit then
    if isDated w then date? false r
    else match r with
      | ':' :: r => date? true r
      | r => number? w r
  else none

/-- What is left behind a number whose plus sign is read already. -/
def afterPlus? (cs : List Char) : Option (List Char) := do
  let (w, r) ← word? cs
  number? w r

end Crosschain.Toml
