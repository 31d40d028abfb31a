import Mathlib
import Ingestion.Proofs.Text.Digits
import Ingestion.Uuid

/-!
# Identifiers read back

The text of an identifier is read as the hyphenated form, since it is too long to be digits alone
and begins with a digit, and its 32 digits are those of the identifier.
-/

namespace Ingestion.Uuid

open Text (hexDigits)

variable (u : Uuid)

/-- The text of an identifier, in groups of digits. -/
theorem toList_toText : u.toText.toList =
    (hexDigits 32 u.value).take 8 ++ '-' :: (((hexDigits 32 u.value).drop 8).take 4 ++ '-' ::
      (((hexDigits 32 u.value).drop 12).take 4 ++ '-' ::
        (((hexDigits 32 u.value).drop 16).take 4 ++ '-' :: (hexDigits 32 u.value).drop 20))) := by
  simp only [toText, String.toList_ofList, List.append_assoc, List.cons_append]

theorem ofDigits?_hexDigits : ofDigits? (hexDigits 32 u.value) = some u := by
  have hvalue : u.value % 16 ^ 32 = u.value := Nat.mod_eq_of_lt u.isLt
  rw [ofDigits?, if_pos (Text.length_hexDigits 32 _), Text.ofHex?_hexDigits, hvalue]
  exact congrArg some (ext_value (Nat.mod_eq_of_lt u.isLt))

theorem ofHyphenated?_toText : ofHyphenated? u.toText.toList = some u := by
  have hlength := Text.length_hexDigits 32 u.value
  have hdigits : '-' ∉ hexDigits 32 u.value := by
    intro h
    obtain ⟨d, hd, heq⟩ := Text.exists_of_mem_hexDigits h
    exact (Text.hexDigit_spec d hd).2.1 heq.symm
  have hread := u.ofDigits?_hexDigits
  rw [toList_toText]
  generalize hexDigits 32 u.value = ds at hlength hdigits hread ⊢
  have hpiece {n m : Nat} : '-' ∉ (ds.drop n).take m :=
    fun h => hdigits (List.mem_of_mem_drop (List.mem_of_mem_take h))
  have hpieces : ds.take 8 ++ (ds.drop 8).take 4 ++ (ds.drop 12).take 4 ++ (ds.drop 16).take 4 ++
      ds.drop 20 = ds := by
    have h12 : ds.take 8 ++ (ds.drop 8).take 4 = ds.take 12 := List.take_add.symm
    have h16 : ds.take 12 ++ (ds.drop 12).take 4 = ds.take 16 := List.take_add.symm
    have h20 : ds.take 16 ++ (ds.drop 16).take 4 = ds.take 20 := List.take_add.symm
    rw [h12, h16, h20, List.take_append_drop]
  rw [ofHyphenated?, Text.splitAt_append fun h => hdigits (List.mem_of_mem_take h),
    Text.splitAt_append hpiece, Text.splitAt_append hpiece, Text.splitAt_append hpiece,
    Text.splitAt_of_not_mem fun h => hdigits (List.mem_of_mem_drop h)]
  dsimp only
  rw [if_pos (by simp [hlength]), hpieces, hread]

/-- The text of an identifier is read as this identifier. -/
theorem ofText?_toText : ofText? u.toText = some u := by
  have hlength : u.toText.toList.length = 36 := by
    simp [toList_toText, Text.length_hexDigits]
  obtain ⟨d, hd, rest, hhead⟩ : ∃ d < 16, ∃ rest, u.toText.toList = Text.hexDigit d :: rest :=
    ⟨_, Nat.mod_lt _ (by decide), _, u.toList_toText⟩
  obtain ⟨-, -, hbrace, hletter⟩ := Text.hexDigit_spec d hd
  have hprefix : Text.sameUpToCase namespaceName
      (u.toText.toList.take namespaceName.length) = false := by
    rw [hhead, Text.sameUpToCase, beq_eq_false_iff_ne]
    intro heq
    exact hletter (List.cons.inj heq).1.symm
  have hread := u.ofHyphenated?_toText
  rw [ofText?, if_neg (by omega), hprefix, if_neg Bool.false_ne_true]
  rw [hhead] at hread ⊢
  split
  · next heq => exact absurd (List.cons.inj heq).1 hbrace
  · exact hread

end Ingestion.Uuid
