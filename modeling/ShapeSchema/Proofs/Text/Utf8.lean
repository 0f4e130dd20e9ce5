/-!
# `ShapeSchema.Proofs.Text.Utf8`: the order of texts is the order of their bytes

Texts are compared character by character, and the bytes that write them in UTF-8 compare in the
same way (`utf8_lt_utf8`): of two characters, the one with the larger code has a larger byte at the
first place where the two differ, and neither is written as the start of the other.
-/

set_option autoImplicit false

namespace ShapeSchema.Text

/-- The bytes of a text in UTF-8. -/
def utf8 (s : String) : List UInt8 := s.toUTF8.data.toList

/-- The bytes of a text are the encodings of its characters, one after the other. -/
theorem utf8_eq (s : String) : utf8 s = s.toList.flatMap String.utf8EncodeChar := by
  have chars : s = String.ofList s.toList := String.ofList_toList.symm
  rw [utf8, chars, String.toUTF8_eq_toByteArray, String.toByteArray_ofList, List.utf8Encode,
    List.data_toByteArray, String.toList_ofList]

/-- Lists of bytes are in order if their first bytes are, and if what follows is where those are
equal. -/
theorem cons_lt_cons {a b : Nat} (first : a ≤ b) (byte : b < 256) {as bs : List UInt8}
    (rest : a = b → as < bs) : UInt8.ofNat a :: as < UInt8.ofNat b :: bs := by
  rw [List.cons_lt_cons_iff]
  rcases Nat.lt_or_eq_of_le first with less | same
  · left
    rw [UInt8.lt_iff_toNat_lt, UInt8.toNat_ofNat', UInt8.toNat_ofNat']
    omega
  · exact .inr ⟨congrArg _ same, rest same⟩

/-- Whatever follows them, the bytes of two characters are in the order of the characters. -/
theorem utf8EncodeChar_append_lt {c d : Char} (h : c < d) (as bs : List UInt8) :
    String.utf8EncodeChar c ++ as < String.utf8EncodeChar d ++ bs := by
  have less : c.val.toNat < d.val.toNat := h
  have bounded : d.val.toNat < 0x110000 := by
    have := d.valid
    unfold UInt32.isValidChar Nat.isValidChar at this
    omega
  unfold String.utf8EncodeChar
  dsimp only
  generalize c.val.toNat = v at less ⊢
  generalize d.val.toNat = w at less bounded ⊢
  -- The larger character takes as many bytes or more. Where it takes more, its first byte is larger
  -- already; where it takes as many, the bytes are compared down to the last.
  by_cases one : v ≤ 0x7F
  · rw [if_pos one]
    split
    · exact cons_lt_cons (by omega) (by omega) (by omega)
    · split
      · exact cons_lt_cons (by omega) (by omega) (by omega)
      · split
        · exact cons_lt_cons (by omega) (by omega) (by omega)
        · exact cons_lt_cons (by omega) (by omega) (by omega)
  · rw [if_neg one, if_neg (show ¬ w ≤ 0x7F by omega)]
    by_cases two : v ≤ 0x7FF
    · rw [if_pos two]
      split
      · exact cons_lt_cons (by omega) (by omega) fun _ =>
          cons_lt_cons (by omega) (by omega) (by omega)
      · split
        · exact cons_lt_cons (by omega) (by omega) (by omega)
        · exact cons_lt_cons (by omega) (by omega) (by omega)
    · rw [if_neg two, if_neg (show ¬ w ≤ 0x7FF by omega)]
      by_cases three : v ≤ 0xFFFF
      · rw [if_pos three]
        split
        · exact cons_lt_cons (by omega) (by omega) fun _ =>
            cons_lt_cons (by omega) (by omega) fun _ =>
              cons_lt_cons (by omega) (by omega) (by omega)
        · exact cons_lt_cons (by omega) (by omega) (by omega)
      · rw [if_neg three, if_neg (show ¬ w ≤ 0xFFFF by omega)]
        exact cons_lt_cons (by omega) (by omega) fun _ =>
          cons_lt_cons (by omega) (by omega) fun _ =>
            cons_lt_cons (by omega) (by omega) fun _ =>
              cons_lt_cons (by omega) (by omega) (by omega)

/-- Texts in order have their bytes in order. -/
theorem utf8_lt_utf8 {s t : String} (h : s < t) : utf8 s < utf8 t := by
  rw [utf8_eq, utf8_eq]
  have chars : s.toList < t.toList := h
  generalize s.toList = cs at chars ⊢
  generalize t.toList = ds at chars ⊢
  -- On the characters: the first that differ decide, and their bytes are ordered alike.
  induction chars with
  | @nil d ds =>
    obtain ⟨b, bs, bytes⟩ := List.exists_cons_of_ne_nil (String.utf8EncodeChar_ne_nil (c := d))
    rw [List.flatMap_cons, bytes]
    exact List.Lex.nil
  | @rel c cs d ds less =>
    rw [List.flatMap_cons, List.flatMap_cons]
    exact utf8EncodeChar_append_lt less _ _
  | @cons c cs ds _ ih =>
    rw [List.flatMap_cons, List.flatMap_cons]
    exact List.append_left_lt ih

end ShapeSchema.Text
