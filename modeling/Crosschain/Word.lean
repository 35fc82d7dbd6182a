import Crosschain.Bytes
import Crosschain.Cause

/-!
# Words of 64 bits

Heights, sequences and counters are unsigned 64-bit words whose sums and products are checked: a
result outside the range is a fault of the computation, never a wrapped value. The module also
holds the big-endian bytes of a word and its decimal text.
-/

namespace Crosschain

/-- How a computation stops short: refused for a cause, or broken by a result that does not fit
64 bits. -/
inductive Fault (ε : Type)
  | refused (cause : ε)
  | overflow
  deriving DecidableEq, Repr

namespace Fault

variable {ε δ α : Type}

/-- The same fault, with its cause wrapped by another layer. -/
def map (f : ε → δ) : Fault ε → Fault δ
  | .refused e => .refused (f e)
  | .overflow => .overflow

/-- A value that is there, or a refusal. -/
def require (o : Option α) (e : ε) : Except (Fault ε) α :=
  match o with
  | some a => .ok a
  | none => .error (.refused e)

/-- A refusal unless `p` holds. -/
def ensure (p : Prop) [Decidable p] (e : ε) : Except (Fault ε) Unit :=
  if p then .ok () else .error (.refused e)

/-- The outcome of a computation with causes of its own, as part of another layer's. -/
def wrap (f : ε → δ) (r : Except ε α) : Except (Fault δ) α :=
  match r with
  | .ok a => .ok a
  | .error e => .error (.refused (f e))

def lift (r : Except ε α) : Except (Fault ε) α := wrap id r

def checked (o : Option α) : Except (Fault ε) α :=
  match o with
  | some a => .ok a
  | none => .error .overflow

end Fault

namespace Word

def add? (a b : UInt64) : Option UInt64 :=
  if a.toNat + b.toNat < UInt64.size then some (a + b) else none

def mul? (a b : UInt64) : Option UInt64 :=
  if a.toNat * b.toNat < UInt64.size then some (a * b) else none

/-- A natural number as a word, if it fits. -/
def ofNat? (n : Nat) : Option UInt64 :=
  if n < UInt64.size then some (UInt64.ofNat n) else none

/-- One less, but never below zero. -/
def pred (a : UInt64) : UInt64 := if a = 0 then 0 else a - 1

/-- The eight bytes of a word, most significant first. -/
def bytes (w : UInt64) : Bytes :=
  [(w >>> 56).toUInt8, (w >>> 48).toUInt8, (w >>> 40).toUInt8, (w >>> 32).toUInt8,
    (w >>> 24).toUInt8, (w >>> 16).toUInt8, (w >>> 8).toUInt8, w.toUInt8]

theorem add?_eq_some_iff {a b c : UInt64} :
    add? a b = some c ↔ c.toNat = a.toNat + b.toNat := by
  unfold add?
  split
  case isTrue h =>
    have hs : (a + b).toNat = a.toNat + b.toNat := by
      rw [UInt64.toNat_add]; exact Nat.mod_eq_of_lt h
    constructor
    · intro e; cases e; exact hs
    · intro e; rw [← hs] at e; rw [UInt64.toNat_inj.1 e]
  case isFalse h =>
    constructor
    · intro e; cases e
    · intro e; exact absurd (e ▸ c.toNat_lt) h

theorem lt_of_add?_one {a b : UInt64} (sum : add? a 1 = some b) : a < b := by
  rw [UInt64.lt_iff_toNat_lt, add?_eq_some_iff.1 sum]
  exact Nat.lt_succ_self _

@[simp] theorem length_bytes (w : UInt64) : (bytes w).length = 8 := rfl

/-! ### Decimal text -/

inductive DecimalError
  | empty
  | badDigit
  | tooLarge
  deriving DecidableEq, Repr

instance : Explains DecimalError where
  lines
    | .empty => ["cannot parse integer from empty string"]
    | .badDigit => ["invalid digit found in string"]
    | .tooLarge => ["number too large to fit in target type"]

def digit? (c : Char) : Option Nat :=
  if '0' ≤ c ∧ c ≤ '9' then some (c.toNat - 48) else none

/-- Reads digits from the left onto `acc`: a foreign character counts before the number it would
extend grows too large. -/
def digits (acc : Nat) : List Char → Except DecimalError UInt64
  | [] => .ok (UInt64.ofNat acc)
  | c :: r =>
    match digit? c with
    | none => .error .badDigit
    | some d => if acc * 10 + d < UInt64.size then digits (acc * 10 + d) r else .error .tooLarge

/-- Reads decimal digits, of which at least one, behind at most one plus sign. -/
def ofChars : List Char → Except DecimalError UInt64
  | [] => .error .empty
  | ['+'] => .error .badDigit
  | '+' :: r => digits 0 r
  | cs => digits 0 cs

def ofText (s : String) : Except DecimalError UInt64 := ofChars s.toList

/-- The decimal digits of a word, without leading zeros. -/
def text (w : UInt64) : String := w.toNat.repr

end Word

end Crosschain
