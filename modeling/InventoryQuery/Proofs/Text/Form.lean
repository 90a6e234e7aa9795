import InventoryQuery.Text.Form

/-!
# Reading back form-encoded values

The value of a query parameter stands for one text. Every character is read back as its bytes from
the way it is written, as itself, as a plus sign or as percent-encoded bytes, and the bytes of a
text determine it. What is written is plain ASCII without spaces.
-/

namespace InventoryQuery.Text

/-- A character other than the percent sign stands for its own bytes. -/
theorem percentDecode_cons {c : Char} (hc : c ≠ '%') (rest : List Char) :
    percentDecode (c :: rest) = String.utf8EncodeChar c ++ percentDecode rest := by
  match rest with
  | [] => simp [percentDecode]
  | [d] => simp [percentDecode]
  | high :: low :: rest => rw [percentDecode, if_neg hc]

/-- A byte is read back from its two digits. -/
theorem percentDecode_percentEncodeByte (byte : UInt8) (rest : List Char) :
    percentDecode (percentEncodeByte byte ++ rest) = byte :: percentDecode rest := by
  have hbyte : byte.toNat < 256 := byte.toNat_lt
  have hhigh := hexValue?_upperHexDigit (byte.toNat / 16) (by omega)
  have hlow := hexValue?_upperHexDigit (byte.toNat % 16) (by omega)
  have hvalue : 16 * (byte.toNat / 16) + byte.toNat % 16 = byte.toNat := by omega
  rw [percentEncodeByte]
  simp only [List.cons_append, List.nil_append]
  rw [percentDecode, if_pos rfl, hhigh, hlow]
  simp only [hvalue, UInt8.ofNat_toNat]

/-- Bytes are read back from their digits. -/
theorem percentDecode_flatMap (bytes : List UInt8) (rest : List Char) :
    percentDecode (bytes.flatMap percentEncodeByte ++ rest) = bytes ++ percentDecode rest := by
  induction bytes with
  | nil => rfl
  | cons byte bytes ih =>
    rw [List.flatMap_cons, List.append_assoc, percentDecode_percentEncodeByte, ih,
      List.cons_append]

/-- The code points of letters and digits. -/
theorem toNat_of_isAlphanum {c : Char} (hc : c.isAlphanum = true) : 48 ≤ c.toNat ∧ c.toNat ≤ 122 := by
  have hclass : (c.isUpper || c.isLower || c.isDigit) = true := hc
  rw [Bool.or_eq_true, Bool.or_eq_true] at hclass
  rcases hclass with (hupper | hlower) | hdigit
  · obtain ⟨hlow, hhigh⟩ : 'A'.val ≤ c.val ∧ c.val ≤ 'Z'.val := of_decide_eq_true hupper
    exact ⟨Nat.le_trans (by decide) (UInt32.le_iff_toNat_le.mp hlow),
      Nat.le_trans (UInt32.le_iff_toNat_le.mp hhigh) (by decide)⟩
  · obtain ⟨hlow, hhigh⟩ := Bool.and_eq_true_iff.mp hlower
    exact ⟨Nat.le_trans (by decide) (UInt32.le_iff_toNat_le.mp (of_decide_eq_true hlow)),
      UInt32.le_iff_toNat_le.mp (of_decide_eq_true hhigh)⟩
  · obtain ⟨hlow, hhigh⟩ := Bool.and_eq_true_iff.mp hdigit
    exact ⟨UInt32.le_iff_toNat_le.mp (of_decide_eq_true hlow),
      Nat.le_trans (UInt32.le_iff_toNat_le.mp (of_decide_eq_true hhigh)) (by decide)⟩

/-- Whether a character may stand in the value of a query parameter: it is plain, or it is one of
the two marks for others. -/
def isFormChar (c : Char) : Bool := isFormPlain c || c == '+' || c == '%'

/-- The code points of these characters: they are printable, and none is a space. -/
theorem toNat_of_isFormChar {c : Char} (hc : isFormChar c = true) :
    0x20 < c.toNat ∧ c.toNat < 0x7f := by
  simp only [isFormChar, isFormPlain, Bool.or_eq_true, beq_iff_eq] at hc
  rcases hc with (((((hc | rfl) | rfl) | rfl) | rfl) | rfl) | rfl
  · have hbounds := toNat_of_isAlphanum hc
    omega
  all_goals decide

/-- The digits of percent-encoded bytes are plain. -/
theorem isFormPlain_upperHexDigit : ∀ n < 16, isFormPlain (upperHexDigit n) = true := by decide

/-- A plus sign is not plain. -/
theorem ne_plus_of_isFormPlain {c : Char} (hc : isFormPlain c = true) : c ≠ '+' := by
  rintro rfl
  exact absurd hc (by decide)

/-- A percent sign is not plain. -/
theorem ne_percent_of_isFormPlain {c : Char} (hc : isFormPlain c = true) : c ≠ '%' := by
  rintro rfl
  exact absurd hc (by decide)

/-- A percent-encoded byte is a percent sign and two plain digits. -/
theorem eq_percent_or_isFormPlain {byte : UInt8} {c : Char} (hc : c ∈ percentEncodeByte byte) :
    c = '%' ∨ isFormPlain c = true := by
  have hbyte : byte.toNat < 256 := byte.toNat_lt
  simp only [percentEncodeByte, List.mem_cons, List.not_mem_nil, or_false] at hc
  rcases hc with rfl | rfl | rfl
  · exact .inl rfl
  · exact .inr (isFormPlain_upperHexDigit _ (by omega))
  · exact .inr (isFormPlain_upperHexDigit _ (by omega))

/-- Every character of an encoded text may stand in the value of a query parameter. -/
theorem isFormChar_of_mem_formEncode {text : List Char} {c : Char} (hc : c ∈ formEncode text) :
    isFormChar c = true := by
  obtain ⟨source, -, hc⟩ := List.mem_flatMap.mp hc
  rw [formEncodeChar] at hc
  split at hc
  · rw [List.mem_singleton.mp hc]
    decide
  · split at hc
    · next hplain =>
      rw [List.mem_singleton.mp hc, isFormChar, hplain]
      rfl
    · obtain ⟨byte, -, hc⟩ := List.mem_flatMap.mp hc
      rcases eq_percent_or_isFormPlain hc with rfl | hplain
      · decide
      · rw [isFormChar, hplain]
        rfl

/-- A text is no longer than one in which each of its characters is written as one or more. -/
theorem length_le_length_flatMap {write : Char → List Char} (hwrite : ∀ c, write c ≠ [])
    (text : List Char) : text.length ≤ (text.flatMap write).length := by
  induction text with
  | nil => exact Nat.zero_le _
  | cons c text ih =>
    have hc := List.length_pos_iff.mpr (hwrite c)
    rw [List.flatMap_cons, List.length_append, List.length_cons]
    omega

/-- A character is written as one or more. -/
theorem formEncodeChar_ne_nil (c : Char) : formEncodeChar c ≠ [] := by
  have hbytes : String.utf8EncodeChar c ≠ [] := by
    refine List.ne_nil_of_length_pos ?_
    rw [String.length_utf8EncodeChar]
    exact c.utf8Size_pos
  rw [formEncodeChar]
  split
  · exact List.cons_ne_nil _ _
  · split
    · exact List.cons_ne_nil _ _
    · obtain ⟨byte, bytes, hencode⟩ := List.exists_cons_of_ne_nil hbytes
      rw [percentEncodeChar, hencode]
      exact List.cons_ne_nil _ _

/-- An encoded text is at least as long as the text. -/
theorem length_le_length_formEncode (text : List Char) :
    text.length ≤ (formEncode text).length :=
  length_le_length_flatMap formEncodeChar_ne_nil text

/-- No plus sign occurs among percent-encoded bytes. -/
theorem map_plus_flatMap (bytes : List UInt8) :
    (bytes.flatMap percentEncodeByte).map (fun c => if c = '+' then ' ' else c) =
      bytes.flatMap percentEncodeByte := by
  refine (List.map_congr_left fun c hc => if_neg ?_).trans (List.map_id _)
  obtain ⟨byte, -, hc⟩ := List.mem_flatMap.mp hc
  rcases eq_percent_or_isFormPlain hc with rfl | hplain
  · decide
  · exact ne_plus_of_isFormPlain hplain

/-- A character is read back as its bytes from the way it is written. -/
theorem formBytes_formEncodeChar (c : Char) (rest : List Char) :
    formBytes (formEncodeChar c ++ rest) = String.utf8EncodeChar c ++ formBytes rest := by
  rw [formBytes, formBytes, List.map_append, formEncodeChar]
  split
  · next hspace =>
    subst hspace
    exact percentDecode_cons (by decide) _
  · split
    · next hplain =>
      rw [List.map_singleton, if_neg (ne_plus_of_isFormPlain hplain)]
      exact percentDecode_cons (ne_percent_of_isFormPlain hplain) _
    · rw [percentEncodeChar, map_plus_flatMap, percentDecode_flatMap]

/-- The bytes of a text are read back from its encoding. -/
theorem formBytes_formEncode (text : List Char) : formBytes (formEncode text) = bytes text := by
  induction text with
  | nil => rfl
  | cons c text ih =>
    rw [formEncode] at ih ⊢
    rw [List.flatMap_cons, formBytes_formEncodeChar, ih, bytes, bytes, List.flatMap_cons]

/-- The characters of a text have the bytes of the text. -/
theorem toArray_bytes (text : List Char) :
    (⟨(bytes text).toArray⟩ : ByteArray) = (String.ofList text).toUTF8 := by
  rw [bytes, String.toUTF8_eq_toByteArray, String.toByteArray_ofList, List.utf8Encode]
  exact ByteArray.ext (List.data_toByteArray).symm

/-- A text is read back from its encoding as the value of a query parameter. -/
theorem formDecode?_formEncode (text : List Char) :
    formDecode? (formEncode text) = some (String.ofList text) := by
  rw [formDecode?, formBytes_formEncode, toArray_bytes, fromUTF8?_toUTF8]

end InventoryQuery.Text
