/-!
The bytes of a text. A table of many texts is faster to check by their bytes than by their
characters; what is read off the bytes there holds of the characters.
-/

namespace LinkIndex.Text

def bytes (text : String) : List UInt8 :=
  text.toByteArray.data.toList

theorem bytes_eq_flatMap (text : String) :
    bytes text = text.toList.flatMap String.utf8EncodeChar := by
  rw [bytes, ← String.utf8Encode_toList, List.utf8Encode, List.data_toByteArray]

def beginsChar (b : UInt8) : Bool :=
  b < 0x80 || 0xC0 ≤ b

theorem countP_beginsChar_pos (c : Char) :
    0 < (String.utf8EncodeChar c).countP beginsChar := by
  have hlow (n : Nat) (h : n ≤ 127) : beginsChar (UInt8.ofNat n) = true := by
    simp only [beginsChar, Bool.or_eq_true, decide_eq_true_eq, UInt8.lt_iff_toNat_lt,
      UInt8.le_iff_toNat_le, UInt8.toNat_ofNat', UInt8.reduceToNat]
    omega
  have hhigh (n : Nat) (h : 192 ≤ n) (h' : n < 256) : beginsChar (UInt8.ofNat n) = true := by
    simp only [beginsChar, Bool.or_eq_true, decide_eq_true_eq, UInt8.lt_iff_toNat_lt,
      UInt8.le_iff_toNat_le, UInt8.toNat_ofNat', UInt8.reduceToNat]
    omega
  rw [List.countP_pos_iff, String.utf8EncodeChar]
  split
  · exact ⟨_, List.mem_cons_self, hlow _ ‹_›⟩
  split
  · exact ⟨_, List.mem_cons_self, hhigh _ (by omega) (by omega)⟩
  split
  · exact ⟨_, List.mem_cons_self, hhigh _ (by omega) (by omega)⟩
  · exact ⟨_, List.mem_cons_self, hhigh _ (by omega) (by omega)⟩

/-- A text has no more characters than bytes that begin one. -/
theorem length_le_countP (text : String) :
    text.toList.length ≤ (bytes text).countP beginsChar := by
  rw [bytes_eq_flatMap]
  induction text.toList with
  | nil => exact Nat.zero_le _
  | cons c rest ih =>
      have hc := countP_beginsChar_pos c
      rw [List.flatMap_cons, List.countP_append, List.length_cons]
      omega

end LinkIndex.Text
