import SpatialSql.Proofs.NameTable

/-!
# Names in the order of their bytes

Tables keep their keys in the order of code points. Whoever lists them sees
texts in UTF-8, and there the order is that of bytes. The two are one order: a
character of more bytes starts with a greater byte, and of characters with
equally many bytes the greater one has the greater digits, the leading ones
first.
-/

namespace SpatialSql.Name

/-- The bytes of a name in UTF-8. -/
def bytes (name : String) : List UInt8 :=
  name.toUTF8.data.toList

theorem bytes_eq_flatMap (name : String) :
    bytes name = name.toList.flatMap String.utf8EncodeChar := by
  have encoded : name.toUTF8 = name.toList.utf8Encode :=
    String.utf8Encode_toList.symm
  rw [bytes, encoded, List.utf8Encode, List.data_toByteArray]

/-- A character is written in one to four bytes, by its number: a first byte
that tells how many there are, and digits to the base of sixty-four. -/
theorem utf8EncodeChar_cases (c : Char) :
    (c.toNat < 0x80 ∧ String.utf8EncodeChar c = [.ofNat c.toNat]) ∨
    (0x80 ≤ c.toNat ∧ c.toNat < 0x800 ∧ String.utf8EncodeChar c =
      [.ofNat (c.toNat / 64 % 32 + 0xC0), .ofNat (c.toNat % 64 + 0x80)]) ∨
    (0x800 ≤ c.toNat ∧ c.toNat < 0x10000 ∧ String.utf8EncodeChar c =
      [.ofNat (c.toNat / 4096 % 16 + 0xE0), .ofNat (c.toNat / 64 % 64 + 0x80),
        .ofNat (c.toNat % 64 + 0x80)]) ∨
    (0x10000 ≤ c.toNat ∧ c.toNat < 0x110000 ∧ String.utf8EncodeChar c =
      [.ofNat (c.toNat / 262144 % 8 + 0xF0),
        .ofNat (c.toNat / 4096 % 64 + 0x80), .ofNat (c.toNat / 64 % 64 + 0x80),
        .ofNat (c.toNat % 64 + 0x80)]) := by
  have bound : c.toNat < 0x110000 := by
    have valid := c.valid
    simp only [UInt32.isValidChar, Nat.isValidChar] at valid
    change c.val.toNat < _
    omega
  have number : c.val.toNat = c.toNat := rfl
  simp only [String.utf8EncodeChar, number]
  by_cases one : c.toNat ≤ 0x7F
  · exact Or.inl ⟨by omega, if_pos one⟩
  rw [if_neg one]
  by_cases two : c.toNat ≤ 0x7FF
  · exact Or.inr (Or.inl ⟨by omega, by omega, if_pos two⟩)
  rw [if_neg two]
  by_cases three : c.toNat ≤ 0xFFFF
  · exact Or.inr (Or.inr (Or.inl ⟨by omega, by omega, if_pos three⟩))
  exact Or.inr (Or.inr (Or.inr ⟨by omega, bound, if_neg three⟩))

/-- Whatever follows, a smaller character is written before a greater one. -/
theorem utf8EncodeChar_append_lt {c d : Char} (h : c < d) (xs ys : List UInt8) :
    String.utf8EncodeChar c ++ xs < String.utf8EncodeChar d ++ ys := by
  have before : c.toNat < d.toNat := h
  rcases utf8EncodeChar_cases c with
      ⟨hc, ec⟩ | ⟨lc, hc, ec⟩ | ⟨lc, hc, ec⟩ | ⟨lc, hc, ec⟩ <;>
    rcases utf8EncodeChar_cases d with
      ⟨hd, ed⟩ | ⟨ld, hd, ed⟩ | ⟨ld, hd, ed⟩ | ⟨ld, hd, ed⟩
  all_goals
    rw [ec, ed]
    simp only [List.cons_append, List.nil_append, List.cons_lt_cons_iff,
      UInt8.lt_iff_toNat_lt, ← UInt8.toNat_inj, UInt8.toNat_ofNat']
    simp (disch := omega) only [Nat.mod_eq_of_lt]
    omega

/-- The order of names by code points is the order of their bytes. -/
theorem bytes_lt_bytes {a b : String} (h : a < b) : bytes a < bytes b := by
  rw [bytes_eq_flatMap, bytes_eq_flatMap]
  have before := String.lt_iff.mp h
  generalize a.toList = as at before
  generalize b.toList = bs at before
  induction before with
  | @nil d ds =>
      rw [List.flatMap_nil, List.flatMap_cons]
      obtain ⟨b, bytes, hb⟩ :=
        List.exists_cons_of_ne_nil (String.utf8EncodeChar_ne_nil (c := d))
      rw [hb]
      exact List.nil_lt_cons _ _
  | rel before => exact utf8EncodeChar_append_lt before _ _
  | cons _ ih => exact List.append_left_lt ih

end SpatialSql.Name
