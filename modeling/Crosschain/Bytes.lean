/-!
# Byte strings

Byte strings are lists of bytes. The module holds the two hexadecimal spellings, the reader that
takes either letter case, and the reader that takes upper case only.
-/

namespace Crosschain

abbrev Bytes := List UInt8

def Bytes.ofText (s : String) : Bytes := s.toUTF8.toList

/-! ### Hexadecimal -/

namespace Hex

/-- The letter case of the digits above nine. -/
inductive Case
  | lower
  | upper
  deriving DecidableEq, Repr

def digit (c : Case) (n : Nat) : Char :=
  if n < 10 then Char.ofNat (48 + n)
  else match c with
    | .lower => Char.ofNat (87 + n)
    | .upper => Char.ofNat (55 + n)

/-- Two digits a byte, the high half first. -/
def encodeChars (c : Case) : Bytes → List Char
  | [] => []
  | b :: r => digit c (b.toNat / 16) :: digit c (b.toNat % 16) :: encodeChars c r

def encode (c : Case) (bs : Bytes) : String := String.ofList (encodeChars c bs)

/-- The value of a decimal digit, or of a letter of the given case. -/
def value? (c : Case) (d : Char) : Option Nat :=
  let n := d.toNat
  if 48 ≤ n ∧ n ≤ 57 then some (n - 48)
  else match c with
    | .lower => if 97 ≤ n ∧ n ≤ 102 then some (n - 87) else none
    | .upper => if 65 ≤ n ∧ n ≤ 70 then some (n - 55) else none

def anyValue? (d : Char) : Option Nat := (value? .lower d).or (value? .upper d)

/-- Reads two digits a byte with `val`; an odd digit count or a foreign character fails. -/
def decodeChars? (val : Char → Option Nat) : List Char → Option Bytes
  | [] => some []
  | [_] => none
  | h :: l :: r => do
    let hi ← val h
    let lo ← val l
    let rest ← decodeChars? val r
    pure (UInt8.ofNat (16 * hi + lo) :: rest)

def decodeUpper? (s : String) : Option Bytes := decodeChars? (value? .upper) s.toList

def decodeAny? (s : String) : Option Bytes := decodeChars? anyValue? s.toList

end Hex

end Crosschain
