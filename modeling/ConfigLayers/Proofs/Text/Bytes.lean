import Mathlib.Tactic.SplitIfs

/-!
# The order of texts as bytes

Texts are ordered by their code points. In UTF-8 this is the order of their bytes: of two different
characters the smaller one has, where their bytes first differ, the smaller byte, and neither of
them is a beginning of the other.
-/

namespace ConfigLayers.Text

/-- The bytes of a text in UTF-8. -/
def bytes (s : String) : List UInt8 := s.toUTF8.data.toList

theorem bytes_eq_flatMap (s : String) : bytes s = s.toList.flatMap String.utf8EncodeChar := by
  have hlist : bytes (String.ofList s.toList) = s.toList.flatMap String.utf8EncodeChar := by
    rw [bytes, String.toUTF8_eq_toByteArray, String.toByteArray_ofList, List.utf8Encode,
      List.data_toByteArray]
  rwa [String.ofList_toList] at hlist

/-! ### Characters -/

/-- Where the two lists first differ, the first one has the smaller byte. -/
def ByteBefore : List UInt8 → List UInt8 → Prop
  | x :: xs, y :: ys => x < y ∨ x = y ∧ ByteBefore xs ys
  | _, _ => False

/-- What follows the difference does not matter. -/
theorem ByteBefore.append_lt {xs ys : List UInt8} (h : ByteBefore xs ys) (us vs : List UInt8) :
    xs ++ us < ys ++ vs := by
  induction xs generalizing ys with
  | nil => exact absurd h id
  | cons x xs ih =>
    cases ys with
    | nil => exact absurd h id
    | cons y ys =>
      rw [List.cons_append, List.cons_append, List.cons_lt_cons_iff]
      rcases h with hlt | ⟨heq, hrest⟩
      · exact .inl hlt
      · exact .inr ⟨heq, ih hrest⟩

theorem toNat_val_lt (c : Char) : c.val.toNat < 0x110000 := by
  rcases c.valid with h | ⟨-, h⟩
  · exact Nat.lt_trans h (by decide)
  · exact h

/-- The bytes of characters are in the order of their code points. Characters of more bytes start
with a larger byte, and those of as many bytes are written to the base 64. -/
theorem byteBefore_utf8EncodeChar {c d : Char} (h : c < d) :
    ByteBefore (String.utf8EncodeChar c) (String.utf8EncodeChar d) := by
  have hlt : c.val.toNat < d.val.toNat := h
  have hc := toNat_val_lt c
  have hd := toNat_val_lt d
  simp only [String.utf8EncodeChar]
  generalize c.val.toNat = m at *
  generalize d.val.toNat = n at *
  -- the sizes of both characters
  split_ifs <;>
    simp only [ByteBefore, UInt8.lt_iff_toNat_lt, ← UInt8.toNat_inj, UInt8.toNat_ofNat'] <;>
    simp (disch := omega) only [Nat.mod_eq_of_lt] <;> omega

/-! ### Texts -/

theorem flatMap_lt_of_lex {cs ds : List Char} (h : List.Lex (· < ·) cs ds) :
    cs.flatMap String.utf8EncodeChar < ds.flatMap String.utf8EncodeChar := by
  induction h with
  | @nil d ds =>
    rw [List.flatMap_cons]
    cases hd : String.utf8EncodeChar d with
    | nil => exact absurd hd String.utf8EncodeChar_ne_nil
    | cons byte bytes => exact List.nil_lt_cons byte _
  | cons _ ih =>
    rw [List.flatMap_cons, List.flatMap_cons]
    exact List.append_left_lt ih
  | rel hcd =>
    rw [List.flatMap_cons, List.flatMap_cons]
    exact (byteBefore_utf8EncodeChar hcd).append_lt _ _

theorem bytes_lt_of_lt {s s' : String} (h : s < s') : bytes s < bytes s' := by
  rw [bytes_eq_flatMap, bytes_eq_flatMap]
  exact flatMap_lt_of_lex h

/-- Texts are in the same order as their bytes. -/
theorem bytes_lt_iff {s s' : String} : bytes s < bytes s' ↔ s < s' := by
  refine ⟨fun h => ?_, bytes_lt_of_lt⟩
  by_cases hlt : s < s'
  · exact hlt
  · by_cases heq : s' = s
    · exact absurd (heq ▸ h) (List.lt_irrefl _)
    · have hgt : s' < s := Std.lt_of_le_of_ne (String.not_lt.mp hlt) heq
      exact absurd h (List.lt_asymm (bytes_lt_of_lt hgt))

end ConfigLayers.Text
