import ConfigLayers.Json.Parser
import ConfigLayers.Json.Printer
import ConfigLayers.Power

/-!
# Written strings are read back

A string is written character by character, and each character is read as one piece: itself, the
character behind a short escape, or the code unit of a control. Joined, the pieces are the string
again.
-/

namespace ConfigLayers

/-! ### Hexadecimal numbers -/

namespace Text

theorem hexValue?_digitChar : ∀ n < 16, hexValue? (Nat.digitChar n) = some n := by decide

theorem hexNumber?_append_digit {cs : List Char} {m n : Nat} (h : hexNumber? cs = some m)
    (hn : n < 16) : hexNumber? (cs ++ [Nat.digitChar n]) = some (16 * m + n) := by
  unfold hexNumber? at *
  rw [List.foldlM_append, h]
  simp [hexValue?_digitChar n hn]

/-- Digits written at a fixed width are read as what fits into the width. -/
theorem hexNumber?_hexPadded (width n : Nat) :
    hexNumber? (hexPadded width n) = some (n % pow2 (4 * width)) := by
  induction width generalizing n with
  | zero => simp [hexPadded, hexNumber?, Nat.mod_one]
  | succ width ih =>
    have hpow : pow2 (4 * (width + 1)) = 16 * pow2 (4 * width) := by
      simp only [Nat.mul_succ, pow2_succ]
      omega
    have hmod : n % (16 * pow2 (4 * width)) = n % 16 + 16 * (n / 16 % pow2 (4 * width)) :=
      Nat.mod_mul
    rw [hexPadded, hexNumber?_append_digit (ih (n / 16)) (Nat.mod_lt n (by decide)), hpow, hmod,
      Nat.add_comm]

end Text

namespace Json

/-! ### Characters -/

theorem readPieces_controlEscape {c : Char} (h : c.toNat < 0x20) (cs : List Char) :
    readPieces (controlEscape c ++ cs) =
      (readPieces cs).map fun (pieces, rest) => (.unit c.toNat :: pieces, rest) := by
  have hhex := Text.hexNumber?_hexPadded 4 c.toNat
  rw [Nat.mod_eq_of_lt (Nat.lt_trans h (by decide))] at hhex
  simp only [Text.hexPadded, List.nil_append, List.cons_append] at hhex
  simp only [controlEscape, Text.hexPadded, List.nil_append, List.cons_append, readPieces, hhex]
  cases readPieces cs <;> rfl

/-- A character that is no control, quote or backslash is read as itself. -/
theorem readPieces_plain {c : Char} (hquote : c ≠ '"') (hbackslash : c ≠ '\\')
    (h : ¬ c.toNat < 0x20) (cs : List Char) :
    readPieces (c :: cs) = (readPieces cs).map fun (pieces, rest) => (.char c :: pieces, rest) := by
  rw [readPieces.eq_def]
  split <;> grind

/-- An escaped character is read as the one that it stands for. -/
theorem readPieces_simpleEscape {escape c : Char} (h : simpleEscape? escape = some c)
    (cs : List Char) :
    readPieces ('\\' :: escape :: cs) =
      (readPieces cs).map fun (pieces, rest) => (.char c :: pieces, rest) := by
  have hunit : escape ≠ 'u' := by
    rintro rfl
    simp [simpleEscape?] at h
  have hread : readPieces ('\\' :: escape :: cs) = (do
      let escaped ← simpleEscape? escape
      let (pieces, rest) ← readPieces cs
      return (.char escaped :: pieces, rest)) := by
    simp [readPieces, hunit]
  rw [hread, h]
  cases readPieces cs <;> rfl

theorem joinPieces_unit {c : Char} (h : c.toNat < 0x20) (pieces : List Piece) :
    joinPieces none (.unit c.toNat :: pieces) = (joinPieces none pieces).map (c :: ·) := by
  have hhigh : isHighHalf c.toNat = false := by simp [isHighHalf]; omega
  have hlow : isLowHalf c.toNat = false := by simp [isLowHalf]; omega
  simp [joinPieces, hhigh, hlow, Char.ofNat_toNat]

/-- A written character is read as a piece that stands for it. -/
theorem exists_piece_writeChar (c : Char) :
    ∃ piece, (∀ cs, readPieces (writeChar c ++ cs) =
        (readPieces cs).map fun (pieces, rest) => (piece :: pieces, rest)) ∧
      ∀ pieces, joinPieces none (piece :: pieces) = (joinPieces none pieces).map (c :: ·) := by
  unfold writeChar
  split
  iterate 7
    · exact ⟨.char _, readPieces_simpleEscape rfl, fun pieces => rfl⟩
  next hquote hbackslash _ _ _ _ _ =>
    split
    · next h => exact ⟨.unit c.toNat, readPieces_controlEscape h, joinPieces_unit h⟩
    · next h => exact ⟨.char c, readPieces_plain hquote hbackslash h, fun pieces => rfl⟩

/-! ### Strings -/

/-- The pieces of a written text up to its closing quote. -/
theorem exists_pieces_flatMap_writeChar (cs rest : List Char) :
    ∃ pieces, readPieces (cs.flatMap writeChar ++ '"' :: rest) = some (pieces, rest) ∧
      joinPieces none pieces = some cs := by
  induction cs with
  | nil => exact ⟨[], rfl, rfl⟩
  | cons c cs ih =>
    obtain ⟨pieces, hread, hjoin⟩ := ih
    obtain ⟨piece, hpiece, hstands⟩ := exists_piece_writeChar c
    refine ⟨piece :: pieces, ?_, ?_⟩
    · rw [List.flatMap_cons, List.append_assoc, hpiece, hread, Option.map_some]
    · rw [hstands, hjoin, Option.map_some]

/-- A written string is read back after its opening quote. -/
theorem stringBody_written (s : String) (rest : List Char) :
    stringBody (s.toList.flatMap writeChar ++ '"' :: rest) = some (s, rest) := by
  obtain ⟨pieces, hread, hjoin⟩ := exists_pieces_flatMap_writeChar s.toList rest
  simp [stringBody, hread, hjoin]

end Json

end ConfigLayers
