import Crosschain.Text.Utf8

/-!
# Texts and their bytes

A text is spelled by exactly one byte string, and the strict reader gives it back.
-/

namespace Crosschain

namespace Utf8

/-- The loop of `ByteArray.toList` puts the bytes from its index on behind those it holds. -/
theorem toList_loop (bs : ByteArray) (left i : Nat) (acc : List UInt8) (h : bs.size - i = left) :
    ByteArray.toList.loop bs i acc = acc.reverse ++ bs.data.toList.drop i := by
  have size : bs.data.toList.length = bs.size := rfl
  induction left generalizing i acc with
  | zero =>
    have done : ¬ i < bs.size := by omega
    rw [ByteArray.toList.loop, if_neg done, List.drop_eq_nil_of_le (by omega), List.append_nil]
  | succ left ih =>
    have more : i < bs.size := by omega
    have first : bs.get! i = bs.data.toList[i] := by
      rw [Array.getElem_toList]
      exact getElem!_pos bs.data i more
    rw [ByteArray.toList.loop, if_pos more, ih (i + 1) _ (by omega), first, List.reverse_cons,
      List.append_assoc, List.singleton_append, ← List.drop_eq_getElem_cons]

theorem toList_eq (bs : ByteArray) : bs.toList = bs.data.toList := by
  rw [ByteArray.toList, toList_loop bs _ 0 [] rfl, List.reverse_nil, List.nil_append, List.drop_zero]

theorem decode?_ofText (s : String) : decode? (Bytes.ofText s) = some s := by
  have h : (⟨(Bytes.ofText s).toArray⟩ : ByteArray) = s.toByteArray := by
    simp [Bytes.ofText, toList_eq]
  have v : s.toByteArray.IsValidUTF8 := s.isValidUTF8
  simp only [decode?, h, String.fromUTF8?, v, dite_true]
  rfl

end Utf8

theorem Bytes.ofText_injective {s t : String} (h : Bytes.ofText s = Bytes.ofText t) : s = t := by
  have read := Utf8.decode?_ofText s
  rw [h, Utf8.decode?_ofText] at read
  exact (Option.some.inj read).symm

end Crosschain
