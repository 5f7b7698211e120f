/-
# Identifiers are read back

The text of an identifier is thirty-two digits in five groups, from which the digits come back by
leaving out the hyphens, and from the digits the bits.
-/

import Ensemble.Proofs.Text.Digits
import Ensemble.Workflow.RunId

namespace Ensemble.RunId

/-- Thirty-two digits are their five groups. -/
theorem exists_groups {digits : List Char} (h : digits.length = 32) :
    ∃ a b c d e : List Char, digits = a ++ (b ++ (c ++ (d ++ e))) ∧ a.length = 8 ∧
      b.length = 4 ∧ c.length = 4 ∧ d.length = 4 ∧ e.length = 12 := by
  refine ⟨digits.take 8, (digits.drop 8).take 4, (digits.drop 12).take 4,
    (digits.drop 16).take 4, digits.drop 20, ?_, ?_⟩
  · have hsplit : ∀ count more : Nat,
        digits.drop count = (digits.drop count).take more ++ digits.drop (count + more) := by
      intro count more
      rw [← List.drop_drop, List.take_append_drop]
    rw [← hsplit 16 4, ← hsplit 12 4, ← hsplit 8 4, List.take_append_drop]
  · simp [h]

/-- Without their hyphens grouped digits are the digits again. -/
theorem ungrouped?_grouped {digits : List Char} (h : digits.length = 32) :
    ungrouped? (grouped digits) = some digits := by
  obtain ⟨a, b, c, d, e, rfl, ha, hb, hc, hd, he⟩ := exists_groups h
  have hgrouped : grouped (a ++ (b ++ (c ++ (d ++ e)))) =
      a ++ '-' :: (b ++ '-' :: (c ++ '-' :: (d ++ '-' :: e))) := by
    simp [grouped, ha, hb, hc, hd, List.drop_append, List.drop_eq_nil_of_le]
  rw [hgrouped, ungrouped?, if_pos (by simp [ha, hb, hc, hd, he])]
  simp [ha, hb, hc, hd, List.drop_append, List.drop_eq_nil_of_le]

/-- An identifier is read back from its text. -/
theorem decode_encode (id : RunId) : decode id.encode = .ok id := by
  have hdigits : (Text.fixedDigits 16 32 id.bits).length = 32 := Text.length_fixedDigits 16 32 _
  have hlength : (grouped (Text.fixedDigits 16 32 id.bits)).length = 36 := by
    simp [grouped, hdigits]
  have hplain : unwrapped (grouped (Text.fixedDigits 16 32 id.bits)) =
      grouped (Text.fixedDigits 16 32 id.bits) := by
    rw [unwrapped, if_neg (by simp [hlength]), if_neg (by simp [hlength])]
  have hbits : ofDigits? (Text.fixedDigits 16 32 id.bits) = some id := by
    have hsize : Nat.pow 2 128 = 16 ^ 32 := by decide
    have hread : Text.readHex 0 (Text.fixedDigits 16 32 id.bits) = some id.bits := by
      rw [Text.readHex_fixedDigits, Nat.zero_mul, Nat.zero_add,
        Nat.mod_eq_of_lt (hsize ▸ id.bits_lt)]
    rw [ofDigits?, hread]
    simp only [id.bits_lt, ↓reduceDIte]
  have htext : ofText? id.text = some id := by
    rw [ofText?, text, String.toList_ofList, if_neg (by simp [hlength]), hplain,
      ungrouped?_grouped hdigits, Option.bind_some, hbits]
  rw [encode, decode, htext]

end Ensemble.RunId
