import Crosschain.Bytes

/-!
# Reading UTF-8

Bytes are read as text in two ways. The strict reading fails on any byte that is no part of a
character. The lenient reading puts the replacement character in the place of each longest run of
bytes that starts a character and does not finish it, and of each byte that cannot start one.
-/

namespace Crosschain.Utf8

/-- How many bytes follow a first byte, and the range of the byte right behind it. A byte that
starts no character longer than one byte has no entry. -/
def lead? (b : UInt8) : Option (Nat × UInt8 × UInt8) :=
  if 0xC2 ≤ b ∧ b ≤ 0xDF then some (1, 0x80, 0xBF)
  else if b = 0xE0 then some (2, 0xA0, 0xBF)
  else if b = 0xED then some (2, 0x80, 0x9F)
  else if 0xE1 ≤ b ∧ b ≤ 0xEF then some (2, 0x80, 0xBF)
  else if b = 0xF0 then some (3, 0x90, 0xBF)
  else if 0xF1 ≤ b ∧ b ≤ 0xF3 then some (3, 0x80, 0xBF)
  else if b = 0xF4 then some (3, 0x80, 0x8F)
  else none

def leadBits (n : Nat) (b : UInt8) : Nat :=
  match n with
  | 1 => b.toNat % 32
  | 2 => b.toNat % 16
  | _ => b.toNat % 8

/-- The character that stands for bytes that spell none. -/
def replacement : Char := '\ufffd'

/-- Where a reader stands: between characters, or inside one with its bits so far, the number of
bytes still owed and the range of the next. -/
inductive Reader
  | between
  | inside (bits owed : Nat) (low high : UInt8)

/-- The reader behind a byte read between characters, and the character the byte completes. -/
def start (b : UInt8) : Reader × List Char :=
  if b < 0x80 then (.between, [Char.ofNat b.toNat])
  else match lead? b with
    | some (n, low, high) => (.inside (leadBits n b) n low high, [])
    | none => (.between, [replacement])

def lenient : Reader → Bytes → List Char
  | .between, [] => []
  | .inside _ _ _ _, [] => [replacement]
  | .between, b :: r =>
    let (next, out) := start b
    out ++ lenient next r
  | .inside bits owed low high, b :: r =>
    if low ≤ b ∧ b ≤ high then
      let bits := bits * 64 + b.toNat % 64
      if owed ≤ 1 then Char.ofNat bits :: lenient .between r
      else lenient (.inside bits (owed - 1) 0x80 0xBF) r
    else
      let (next, out) := start b
      replacement :: (out ++ lenient next r)

def decodeLenient (bs : Bytes) : String := String.ofList (lenient .between bs)

/-- The text of some bytes, if all of them spell characters. -/
def decode? (bs : Bytes) : Option String := String.fromUTF8? ⟨bs.toArray⟩

end Crosschain.Utf8
