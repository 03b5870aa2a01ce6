import BuildTransform.Proofs.Text.Floors

/-!
# Texts in bytes

The bytes of a text in UTF-8, and the characters that some of them still hold.

* `encode8` writes a text in bytes, `width8` of them for each character.
* `decode8` reads characters off bytes and leaves out the bytes at which none
  begins.
* `decode8_take` says what the first bytes of a text are read as: the characters
  in front of the floor of their number.  A character that is cut off is left out
  as a whole, since no other character begins inside it.
-/

namespace BuildTransform
namespace Units

/-- A text in bytes. -/
def encode8 (cs : List Char) : List UInt8 :=
  cs.flatMap String.utf8EncodeChar

/-- The characters in a row of bytes; bytes at which no character begins are left
out. -/
def decode8 : List UInt8 → List Char
  | [] => []
  | b :: bs =>
      match ByteArray.utf8DecodeChar? (b :: bs).toByteArray 0 with
      | some c => c :: decode8 ((b :: bs).drop c.utf8Size)
      | none => decode8 bs
termination_by bs => bs.length
decreasing_by
  · have := c.utf8Size_pos
    simp only [List.length_drop, List.length_cons]
    omega
  · exact Nat.lt_succ_self bs.length

section Bytes

variable {c d : Char} {cs : List Char} {bs bs' : List UInt8} {j u : Nat}

theorem length_utf8EncodeChar (c : Char) : (String.utf8EncodeChar c).length = width8 c := by
  rw [String.length_utf8EncodeChar]
  simp only [Char.utf8Size, width8, Char.toNat, UInt32.le_iff_toNat_le, UInt32.toNat_ofNatLT]
  split_ifs <;> omega

theorem length_encode8 : (encode8 cs).length = total width8 cs :=
  length_flatMap_eq_total length_utf8EncodeChar

theorem encode8_cons : encode8 (c :: cs) = String.utf8EncodeChar c ++ encode8 cs :=
  List.flatMap_cons

/-! ## One character -/

theorem decodeChar_append (c : Char) (bs : List UInt8) :
    ByteArray.utf8DecodeChar? (String.utf8EncodeChar c ++ bs).toByteArray 0 = some c := by
  rw [List.toByteArray_append, ByteArray.utf8DecodeChar?_utf8EncodeChar_append]

/-- Bytes that are read as a character begin with the bytes of it. -/
theorem exists_append_of_decodeChar
    (h : ByteArray.utf8DecodeChar? bs.toByteArray 0 = some c) :
    ∃ bs', bs = String.utf8EncodeChar c ++ bs' := by
  obtain ⟨rest, hrest⟩ := ByteArray.exists_of_utf8DecodeChar?_eq_some h
  refine ⟨rest.data.toList, ?_⟩
  rw [← List.toByteArray_inj, List.toByteArray_append, hrest]
  congr 1
  apply ByteArray.ext
  simp

/-- The bytes of a character do not begin with those of another one. -/
theorem eq_of_append_eq
    (h : String.utf8EncodeChar c ++ bs = String.utf8EncodeChar d ++ bs') :
    c = d := by
  have hc := decodeChar_append c bs
  rw [h, decodeChar_append] at hc
  exact (Option.some.inj hc).symm

/-- The first byte of a character is found nowhere further on in the bytes of one. -/
theorem eq_zero_of_drop_eq
    (h : ((String.utf8EncodeChar c).take u).drop j = String.utf8EncodeChar d ++ bs) :
    j = 0 := by
  have hpos : 0 < (String.utf8EncodeChar d).length :=
    List.length_pos_iff.mpr String.utf8EncodeChar_ne_nil
  have hbyte : (String.utf8EncodeChar c)[j]? = some (String.utf8EncodeChar d)[0] := by
    have hhead := congrArg (fun bs => bs[0]?) h
    simp only [List.getElem?_drop, Nat.add_zero, List.getElem?_take,
      List.getElem?_append_left hpos, List.getElem?_eq_getElem hpos] at hhead
    split_ifs at hhead
    exact hhead
  obtain ⟨hj, hbyte⟩ := List.getElem?_eq_some_iff.mp hbyte
  exact UInt8.isUTF8FirstByte_getElem_utf8EncodeChar.mp
    (hbyte ▸ UInt8.isUTF8FirstByte_getElem_zero_utf8EncodeChar)

/-- No character begins in the bytes of another one that is cut off. -/
theorem decodeChar_of_cut (hu : u < width8 c) :
    ByteArray.utf8DecodeChar? (((String.utf8EncodeChar c).take u).drop j).toByteArray 0 =
      none := by
  by_contra hsome
  obtain ⟨d, hd⟩ := Option.ne_none_iff_exists'.mp hsome
  obtain ⟨bs, hbs⟩ := exists_append_of_decodeChar hd
  obtain rfl := eq_zero_of_drop_eq hbs
  rw [List.drop_zero] at hbs
  -- Both characters begin at the first byte, and one of them has too few bytes.
  have hwhole : String.utf8EncodeChar c ++ [] =
      String.utf8EncodeChar d ++ (bs ++ (String.utf8EncodeChar c).drop u) := by
    rw [← List.append_assoc, ← hbs, List.take_append_drop, List.append_nil]
  have hsame : c = d := eq_of_append_eq hwhole
  have hlength := congrArg List.length hbs
  rw [List.length_take, List.length_append, length_utf8EncodeChar, length_utf8EncodeChar,
    ← hsame] at hlength
  omega

/-! ## Texts -/

/-- Bytes in which no character begins are left out. -/
theorem decode8_of_none
    (h : ∀ j, ByteArray.utf8DecodeChar? (bs.drop j).toByteArray 0 = none) :
    decode8 bs = [] := by
  induction bs with
  | nil => rw [decode8]
  | cons b bs ih =>
      have hfirst := h 0
      rw [List.drop_zero] at hfirst
      rw [decode8, hfirst]
      exact ih fun j => h (j + 1)

theorem decode8_append (c : Char) (bs : List UInt8) :
    decode8 (String.utf8EncodeChar c ++ bs) = c :: decode8 bs := by
  have hdecode := decodeChar_append c bs
  have hdrop : (String.utf8EncodeChar c ++ bs).drop c.utf8Size = bs := by
    rw [← String.length_utf8EncodeChar, List.drop_left]
  cases hbytes : String.utf8EncodeChar c ++ bs with
  | nil => exact absurd (List.append_eq_nil_iff.mp hbytes).1 String.utf8EncodeChar_ne_nil
  | cons b rest =>
      rw [hbytes] at hdecode hdrop
      rw [decode8, hdecode]
      simp only [hdrop]

/-- **The first bytes of a text are read as the characters in front of the floor of
their number.** -/
theorem decode8_take :
    decode8 ((encode8 cs).take u) = cs.take (floorIndex width8 cs u) := by
  induction cs generalizing u with
  | nil => simp [encode8, decode8]
  | cons c cs ih =>
      rw [encode8_cons, floorIndex]
      split_ifs with hwidth
      · rw [List.take_append, List.take_of_length_le (by rw [length_utf8EncodeChar]; exact hwidth),
          length_utf8EncodeChar, decode8_append, ih, List.take_succ_cons]
      · rw [List.take_append_of_le_length (by rw [length_utf8EncodeChar]; omega),
          decode8_of_none fun j => decodeChar_of_cut (by omega), List.take_zero]

example : decode8 ((encode8 ['a', '😀', 'b']).take 4) = ['a'] := by cbv

end Bytes

end Units
end BuildTransform
