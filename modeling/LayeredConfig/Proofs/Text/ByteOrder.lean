/-!
# Texts in byte order

Texts are compared by their characters. Comparing the octets that encode them gives the
same order: the code of a greater character begins, after the octets that both codes
share, with a greater octet, and no code begins with another one.
-/

namespace LayeredConfig.Text

/-- The octets that encode a text. -/
def octets (text : String) : List UInt8 := text.toUTF8.data.toList

/-- The octets of a text are those of its characters. -/
theorem octets_eq_flatMap (text : String) :
    octets text = text.toList.flatMap String.utf8EncodeChar := by
  rw [octets, String.toUTF8, ← String.utf8Encode_toList, List.utf8Encode,
    List.toList_data_toByteArray]

/-- A character has one of the codes that Unicode has. -/
theorem val_toNat_lt (c : Char) : c.val.toNat < 0x110000 := by
  have hvalid : c.val.toNat < 0xd800 ∨ 0xdfff < c.val.toNat ∧ c.val.toNat < 0x110000 := c.valid
  omega

/-- A smaller character has a smaller code, whatever follows the codes. -/
theorem utf8EncodeChar_append_lt {c d : Char} (h : c < d) (rest others : List UInt8) :
    String.utf8EncodeChar c ++ rest < String.utf8EncodeChar d ++ others := by
  have hlt : c.val.toNat < d.val.toNat := h
  have hbound := val_toNat_lt d
  simp only [String.utf8EncodeChar]
  generalize c.val.toNat = m at *
  generalize d.val.toNat = n at *
  -- the lengths of the two codes; with different ones the first octets differ
  repeat' split
  all_goals
    simp only [List.cons_append, List.nil_append, List.cons_lt_cons_iff, UInt8.lt_iff_toNat_lt,
      ← UInt8.toNat_inj, UInt8.toNat_ofNat']
    simp (disch := omega) only [Nat.mod_eq_of_lt]
    omega

/-- Smaller texts have smaller octets. -/
theorem flatMap_utf8EncodeChar_lt {cs ds : List Char} (h : cs < ds) :
    cs.flatMap String.utf8EncodeChar < ds.flatMap String.utf8EncodeChar := by
  induction cs generalizing ds with
  | nil =>
    cases ds with
    | nil => exact absurd h (List.lt_irrefl _)
    | cons d ds =>
      obtain ⟨octet, rest, hcode⟩ :=
        List.exists_cons_of_ne_nil (String.utf8EncodeChar_ne_nil (c := d))
      rw [List.flatMap_nil, List.flatMap_cons, hcode]
      exact List.nil_lt_cons _ _
  | cons c cs ih =>
    cases ds with
    | nil => exact absurd h (List.not_lt_nil _)
    | cons d ds =>
      rw [List.flatMap_cons, List.flatMap_cons]
      rcases List.cons_lt_cons_iff.mp h with hlt | ⟨rfl, hrest⟩
      · exact utf8EncodeChar_append_lt hlt _ _
      · exact List.append_left_lt (ih hrest)

/-- The order of texts is the order of their octets. -/
theorem octets_lt_iff {a b : String} : octets a < octets b ↔ a < b := by
  have hmono : ∀ {a b : String}, a < b → octets a < octets b := by
    intro a b h
    rw [octets_eq_flatMap, octets_eq_flatMap]
    exact flatMap_utf8EncodeChar_lt h
  constructor
  · intro h
    by_cases hlt : a < b
    · exact hlt
    · have hle : b ≤ a := hlt
      by_cases hgt : b < a
      · exact absurd (List.lt_trans h (hmono hgt)) (List.lt_irrefl _)
      · obtain rfl : a = b := String.le_antisymm hgt hle
        exact absurd h (List.lt_irrefl _)
  · exact hmono

end LayeredConfig.Text
