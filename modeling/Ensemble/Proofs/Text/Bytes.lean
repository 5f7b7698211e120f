/-
# The order of bytes

Texts are ordered by their characters. Written in UTF-8 they are ordered the same way by their
bytes. The code of a character is written in digits to the base of 64, the first of which also says
how many follow; a greater code has no fewer digits, and more digits are announced by a greater
first byte.
-/

import Mathlib.Algebra.Group.Nat.Defs
import Mathlib.Data.List.Flatten
import Mathlib.Tactic.SplitIfs

namespace Ensemble.Text

/-- The bytes of a text. -/
def bytes (text : String) : List UInt8 :=
  text.toUTF8.data.toList

/-- A text has the bytes of its characters. -/
theorem bytes_eq_flatMap (text : String) :
    bytes text = text.toList.flatMap String.utf8EncodeChar := by
  conv => lhs; rw [← String.ofList_toList (s := text)]
  rw [bytes, String.toUTF8_eq_toByteArray, String.toByteArray_ofList, List.utf8Encode,
    List.data_toByteArray]

theorem length_bytes (text : String) : (bytes text).length = text.utf8ByteSize := by
  rw [bytes, Array.length_toList]
  rfl

/-- A text with some of the characters of another is no longer. -/
theorem utf8ByteSize_le_of_sublist {left right : String} (h : left.toList.Sublist right.toList) :
    left.utf8ByteSize ≤ right.utf8ByteSize := by
  rw [← length_bytes, ← length_bytes, bytes_eq_flatMap, bytes_eq_flatMap]
  exact (h.flatMap _).length_le

/-! ## One character -/

/-- The last digits of a code, one byte for each. -/
def lastDigits (code : Nat) : Nat → List UInt8
  | 0 => []
  | count + 1 => UInt8.ofNat (code / 64 ^ count % 64 + 128) :: lastDigits code count

/-- How many digits of a code follow the first byte. -/
def followingDigits (code : Nat) : Nat :=
  if code ≤ 0x7F then 0 else if code ≤ 0x7FF then 1 else if code ≤ 0xFFFF then 2 else 3

/-- The first byte says how many follow, and begins the code. -/
def firstByte (code : Nat) : Nat :=
  if code ≤ 0x7F then code
  else if code ≤ 0x7FF then 0xC0 + code / 0x40
  else if code ≤ 0xFFFF then 0xE0 + code / 0x1000
  else 0xF0 + code / 0x40000

theorem utf8EncodeChar_eq (c : Char) :
    String.utf8EncodeChar c =
      UInt8.ofNat (firstByte c.toNat) :: lastDigits c.toNat (followingDigits c.toNat) := by
  have hbound : c.toNat < 0x110000 := by
    have hvalid := c.valid
    simp only [UInt32.isValidChar, Nat.isValidChar] at hvalid
    show c.val.toNat < _
    omega
  simp only [String.utf8EncodeChar, firstByte, followingDigits]
  rw [show c.val.toNat = c.toNat from rfl]
  generalize c.toNat = code at hbound ⊢
  split
  next => rfl
  next =>
    split
    next =>
      have hfirst : code / 64 % 32 + 192 = 0xC0 + code / 64 := by omega
      simp [lastDigits, hfirst]
    next =>
      split
      next =>
        have hfirst : code / 4096 % 16 + 224 = 0xE0 + code / 4096 := by omega
        simp [lastDigits, hfirst]
      next =>
        have hfirst : code / 262144 % 8 + 240 = 0xF0 + code / 262144 := by omega
        simp [lastDigits, hfirst]

/-- Of two codes that begin alike the lesser has the lesser digits. -/
theorem lastDigits_lt {low high : Nat} (h : low < high) {count : Nat}
    (hsame : low / 64 ^ count = high / 64 ^ count) (front behind : List UInt8) :
    lastDigits low count ++ front < lastDigits high count ++ behind := by
  induction count with
  | zero =>
      rw [Nat.pow_zero, Nat.div_one, Nat.div_one] at hsame
      omega
  | succ count ih =>
      rw [Nat.pow_succ, ← Nat.div_div_eq_div_mul, ← Nat.div_div_eq_div_mul] at hsame
      have hle : low / 64 ^ count ≤ high / 64 ^ count := Nat.div_le_div_right (by omega)
      rw [lastDigits, lastDigits, List.cons_append, List.cons_append, List.cons_lt_cons_iff]
      rcases Nat.lt_or_eq_of_le hle with hlt | heq
      · have hsmall : ∀ code : Nat, code % 64 + 128 < UInt8.size := fun code => by
          rw [UInt8.size]
          omega
        refine Or.inl ?_
        rw [UInt8.lt_iff_toNat_lt, UInt8.toNat_ofNat_of_lt' (hsmall _),
          UInt8.toNat_ofNat_of_lt' (hsmall _)]
        omega
      · exact Or.inr ⟨by rw [heq], ih heq⟩

/-- Of two codes the lesser has the lesser first byte, or they begin alike. -/
theorem firstByte_lt_or_eq {low high : Nat} (h : low < high) (hbound : high < 0x110000) :
    firstByte low < firstByte high ∧ firstByte high < UInt8.size ∨
      firstByte low = firstByte high ∧ followingDigits low = followingDigits high ∧
        low / 64 ^ followingDigits low = high / 64 ^ followingDigits low := by
  simp only [firstByte, followingDigits, UInt8.size]
  split_ifs <;> simp <;> omega

/-- The bytes of a lesser character are less, whatever follows. -/
theorem utf8EncodeChar_lt {left right : Char} (h : left < right) (front behind : List UInt8) :
    String.utf8EncodeChar left ++ front < String.utf8EncodeChar right ++ behind := by
  have hlt : left.toNat < right.toNat := UInt32.lt_iff_toNat_lt.1 (Char.lt_def.1 h)
  have hbound : right.toNat < 0x110000 := by
    have hvalid := right.valid
    simp only [UInt32.isValidChar, Nat.isValidChar] at hvalid
    show right.val.toNat < _
    omega
  rw [utf8EncodeChar_eq, utf8EncodeChar_eq, List.cons_append, List.cons_append,
    List.cons_lt_cons_iff]
  rcases firstByte_lt_or_eq hlt hbound with ⟨hfirst, hsmall⟩ | ⟨hfirst, hcount, hsame⟩
  · refine Or.inl ?_
    rw [UInt8.lt_iff_toNat_lt, UInt8.toNat_ofNat_of_lt' (by omega),
      UInt8.toNat_ofNat_of_lt' hsmall]
    exact hfirst
  · exact Or.inr ⟨by rw [hfirst], hcount ▸ lastDigits_lt hlt hsame front behind⟩

/-! ## Texts -/

/-- A lesser text has lesser bytes. -/
theorem bytes_lt {left right : String} (h : left < right) : bytes left < bytes right := by
  rw [bytes_eq_flatMap, bytes_eq_flatMap]
  rw [String.lt_iff] at h
  generalize left.toList = front at h ⊢
  generalize right.toList = behind at h ⊢
  induction front generalizing behind with
  | nil =>
      cases behind with
      | nil => exact absurd h (List.not_lt_nil _)
      | cons c behind =>
          rw [List.flatMap_nil, List.flatMap_cons, utf8EncodeChar_eq]
          exact List.nil_lt_cons _ _
  | cons c front ih =>
      cases behind with
      | nil => exact absurd h (List.not_lt_nil _)
      | cons d behind =>
          rw [List.flatMap_cons, List.flatMap_cons]
          rcases List.cons_lt_cons_iff.1 h with hlt | ⟨rfl, hrest⟩
          · exact utf8EncodeChar_lt hlt _ _
          · exact List.append_left_lt (ih _ hrest)

end Ensemble.Text
