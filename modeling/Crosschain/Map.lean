import Std.Data.ExtTreeMap

/-!
# Finite maps

The stores of a chain are finite maps with their keys in order; two maps with the same entries are
equal. Keys of several parts are compared part by part, and two keys that compare equal are equal.
-/

namespace Crosschain

/-- A finite map with its keys in order. -/
abbrev Map (κ α : Type) [Ord κ] : Type := Std.ExtTreeMap κ α

namespace Map

variable {α β γ : Type} [Ord β] [Ord γ] [Std.LawfulEqOrd β] [Std.LawfulEqOrd γ]

theorem eq_of_compareOn {f : α → β} {a b : α} (h : compareOn f a b = .eq) : f a = f b :=
  (Std.compare_eq_iff_eq (a := f a) (b := f b)).1 h

theorem eq_of_compareLex {f : α → β} {g : α → γ} {a b : α}
    (h : compareLex (compareOn f) (compareOn g) a b = .eq) : f a = f b ∧ g a = g b := by
  rw [compareLex, Ordering.then_eq_eq] at h
  exact ⟨eq_of_compareOn h.1, eq_of_compareOn h.2⟩

end Map

end Crosschain
