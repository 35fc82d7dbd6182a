import Crosschain.Json.Basic
import Crosschain.Text.Utf8

/-!
# Reading JSON

A document is one value between blanks. The reader works on characters from the left and gives
the rest behind what it read; a bound on the number of steps, taken from the length of the
document, makes it total.
-/

namespace Crosschain.Json

namespace Reader

/-- The four blanks of the format. -/
def isSpace (c : Char) : Bool := c == ' ' || c == '\n' || c == '\t' || c == '\r'

def skipSpace (cs : List Char) : List Char := cs.dropWhile isSpace

/-! ### String literals -/

/-- A piece of a string literal: a character, or a 16-bit unit given by its number. -/
inductive Piece
  | char (c : Char)
  | unit (n : Nat)
  deriving DecidableEq, Repr

/-- The character behind a backslash that a letter stands for. -/
def letterEscape? (c : Char) : Option Char :=
  match c with
  | '"' => some '"'
  | '\\' => some '\\'
  | '/' => some '/'
  | 'b' => some '\x08'
  | 'f' => some '\x0c'
  | 'n' => some '\n'
  | 'r' => some '\r'
  | 't' => some '\t'
  | _ => none

/-- The number of four hexadecimal digits. -/
def hex4? (a b c d : Char) : Option Nat := do
  let a ← Hex.anyValue? a
  let b ← Hex.anyValue? b
  let c ← Hex.anyValue? c
  let d ← Hex.anyValue? d
  pure (((a * 16 + b) * 16 + c) * 16 + d)

/-- Reads the pieces of a literal up to its closing quote, and what follows it. A control character
has to be escaped. -/
def pieces : List Char → Option (List Piece × List Char)
  | [] => none
  | '"' :: r => some ([], r)
  | '\\' :: 'u' :: a :: b :: c :: d :: r => do
    let n ← hex4? a b c d
    let (ps, rest) ← pieces r
    pure (.unit n :: ps, rest)
  | '\\' :: e :: r => do
    let c ← letterEscape? e
    let (ps, rest) ← pieces r
    pure (.char c :: ps, rest)
  | c :: r =>
    if c.toNat < 0x20 ∨ c = '\\' then none
    else do
      let (ps, rest) ← pieces r
      pure (.char c :: ps, rest)

def isHigh (n : Nat) : Bool := 0xD800 ≤ n && n ≤ 0xDBFF

def isLow (n : Nat) : Bool := 0xDC00 ≤ n && n ≤ 0xDFFF

def pairChar (high low : Nat) : Char :=
  Char.ofNat (0x10000 + (high - 0xD800) * 0x400 + (low - 0xDC00))

/-- The characters that pieces spell; half a surrogate pair spells none. -/
def joinPieces : List Piece → Option (List Char)
  | [] => some []
  | .char c :: r => (joinPieces r).map (c :: ·)
  | .unit h :: .unit l :: r =>
    if isHigh h && isLow l then (joinPieces r).map (pairChar h l :: ·)
    else if isHigh h || isLow h then none
    else (joinPieces (.unit l :: r)).map (Char.ofNat h :: ·)
  | .unit n :: r =>
    if isHigh n || isLow n then none else (joinPieces r).map (Char.ofNat n :: ·)

/-- Reads a literal whose opening quote is read already. -/
def stringBody (cs : List Char) : Option (Option String × List Char) := do
  let (ps, rest) ← pieces cs
  pure ((joinPieces ps).map String.ofList, rest)

/-! ### Numbers -/

/-- The decimal digits in front, and the rest. -/
def spanDigits (cs : List Char) : List Char × List Char := cs.span Char.isDigit

/-- A whole part: zero alone, or digits that do not start with zero. -/
def wholePart : List Char → Option (List Char × List Char)
  | '0' :: r => some (['0'], r)
  | cs =>
    let (ds, r) := spanDigits cs
    if ds.isEmpty then none else some (ds, r)

/-- A fraction of at least one digit, if a point follows. -/
def fractionPart : List Char → Option (List Char × List Char)
  | '.' :: r =>
    let (ds, r) := spanDigits r
    if ds.isEmpty then none else some ('.' :: ds, r)
  | cs => some ([], cs)

def exponentSign : List Char → List Char × List Char
  | '+' :: r => (['+'], r)
  | '-' :: r => (['-'], r)
  | cs => ([], cs)

/-- An exponent of at least one digit, if its letter follows. -/
def exponentPart : List Char → Option (List Char × List Char)
  | c :: r =>
    if c = 'e' ∨ c = 'E' then
      let (sign, r) := exponentSign r
      let (ds, r) := spanDigits r
      if ds.isEmpty then none else some (c :: (sign ++ ds), r)
    else some ([], c :: r)
  | [] => some ([], [])

/-- A number without a sign: whole part, fraction and exponent. -/
def unsigned (cs : List Char) : Option (List Char × Bool × List Char) := do
  let (whole, r) ← wholePart cs
  let (fraction, r) ← fractionPart r
  let (exponent, r) ← exponentPart r
  pure (whole ++ fraction ++ exponent, fraction.isEmpty && exponent.isEmpty, r)

/-- A number. One of plain digits is read as its value, any other is kept as it is spelled. -/
def number : List Char → Option (Json × List Char)
  | '-' :: r => do
    let (cs, _, r) ← unsigned r
    pure (.number (String.ofList ('-' :: cs)), r)
  | cs => do
    let (ds, plain, r) ← unsigned cs
    if plain then pure (.nat (Nat.ofDigitChars 10 ds 0), r)
    else pure (.number (String.ofList ds), r)

/-! ### Values -/

mutual

/-- Reads a value behind blanks. -/
def value : Nat → List Char → Option (Json × List Char)
  | 0, _ => none
  | n + 1, cs =>
    match skipSpace cs with
    | '"' :: r => (stringBody r).map fun (s, r) => (.text s, r)
    | '[' :: r =>
      match skipSpace r with
      | ']' :: r => some (.array [], r)
      | r => (items n r).map fun (js, r) => (.array js, r)
    | '\x7b' :: r =>
      match skipSpace r with
      | '\x7d' :: r => some (.object [], r)
      | r => (members n r).map fun (ms, r) => (.object ms, r)
    | 'n' :: 'u' :: 'l' :: 'l' :: r => some (.null, r)
    | 't' :: 'r' :: 'u' :: 'e' :: r => some (.bool true, r)
    | 'f' :: 'a' :: 'l' :: 's' :: 'e' :: r => some (.bool false, r)
    | r => number r

/-- Reads items up to the closing bracket: a value, then the bracket or a comma and more items. -/
def items : Nat → List Char → Option (List Json × List Char)
  | 0, _ => none
  | n + 1, cs =>
    match value n cs with
    | none => none
    | some (j, r) =>
      match skipSpace r with
      | ']' :: r => some ([j], r)
      | ',' :: r => (items n r).map fun (js, r) => (j :: js, r)
      | _ => none

/-- Reads members up to the closing brace: a name, a colon and a value, then the brace or a comma
and more members. -/
def members : Nat → List Char → Option (List (Option String × Json) × List Char)
  | 0, _ => none
  | n + 1, cs =>
    match skipSpace cs with
    | '"' :: r =>
      match stringBody r with
      | none => none
      | some (k, r) =>
        match skipSpace r with
        | ':' :: r =>
          match value n r with
          | none => none
          | some (v, r) =>
            match skipSpace r with
            | '\x7d' :: r => some ([(k, v)], r)
            | ',' :: r => (members n r).map fun (ms, r) => ((k, v) :: ms, r)
            | _ => none
        | _ => none
    | _ => none

end

end Reader

open Reader in
/-- The value of a document, of which nothing but blanks may be left. -/
def ofChars? (cs : List Char) : Option Json :=
  match value (2 * cs.length + 1) cs with
  | some (j, r) => if (skipSpace r).isEmpty then some j else none
  | none => none

def parse? (s : String) : Option Json := ofChars? s.toList

def decode? (bs : Bytes) : Option Json := (Utf8.decode? bs).bind parse?

end Crosschain.Json
