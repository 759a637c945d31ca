import ConfigLayers.Proofs.Coerce.Numerals
import ConfigLayers.Proofs.Json.Integers
import ConfigLayers.Proofs.Text.Blank
import ConfigLayers.Proofs.Tree.Reads

/-!
# Reading integers

The coercions to integers, which trim their text and read a numeral. An integer that was written is
read back by the types that have it, and by no other one, so that a typed read of an integer in a
tree depends on its value alone.
-/

namespace ConfigLayers

namespace IntType

variable {t : IntType} {n : Int} {c : Char}

/-! ### Written integers -/

theorem isBlank_of_isDigit (h : c.isDigit = true) : Text.isBlank c = false := by
  have hrange : 48 ≤ c.toNat ∧ c.toNat ≤ 57 := by
    simpa [Char.isDigit, UInt32.le_iff_toNat_le] using h
  simp [Text.isBlank, Text.Ranges.mem, Text.blankRanges]
  omega

/-- The text of an integer has no outer white space. -/
theorem trimmed_text (n : Int) : Text.Trimmed (toString n).toList := by
  obtain ⟨negative, m, -, -, htext⟩ := Json.exists_toList_text n
  apply Text.trimmed_of_forall
  intro c hc
  rw [show (toString n).toList = _ from htext] at hc
  rcases List.mem_append.mp hc with hc | hc
  · obtain rfl : c = '-' := by
      cases negative <;> simp_all
    decide
  · exact isBlank_of_isDigit (Nat.isDigit_of_mem_toDigits (by decide) (by decide) hc)

/-- The text of an integer denotes it, for a type that has its sign. -/
theorem denotes_text (h : n < 0 → t.signed = true) : t.Denotes (toString n).toList n := by
  obtain ⟨negative, m, hn, hzero, htext⟩ := Json.exists_toList_text n
  refine ⟨if negative then ['-'] else [], negative, Nat.toDigits 10 m, ?_, htext,
    Nat.toDigits_ne_nil, ?_, ?_⟩
  · cases negative with
    | false => exact .none
    | true =>
      have hneg : n < 0 := by
        simp [Binary64.signed] at hn hzero
        omega
      exact .minus (h hneg)
  · intro d hd
    exact Nat.isDigit_of_mem_toDigits (by decide) (by decide) hd
  · rw [Decimal.signedValue, Decimal.digitsValue_toDigits, hn]

/-- A negative integer is no integer of a type without sign, whatever its digits are. -/
theorem refuses_text_of_unsigned (hn : n < 0) (h : t.signed = false) :
    t.Refuses (toString n).toList .integerDigit := by
  obtain ⟨m, hm, rfl⟩ : ∃ m : Nat, m ≠ 0 ∧ n = -m := ⟨n.natAbs, by omega, by omega⟩
  rw [show (toString (-(m : Int))).toList = _ from Json.toList_text_neg hm]
  refine .stop (.none (by decide) (by simp [h]) _) ?_
  exact ⟨[], '-', Nat.toDigits 10 m, rfl, t.passes_nil false, .noDigit rfl⟩

/-- A written integer is read back by the types that have it, and by no other one. -/
theorem integerOfChars_text_eq_ok_iff {v : Int} :
    Coerce.integerOfChars t (toString n).toList = .ok v ↔ v = n ∧ t.InRange n := by
  constructor
  · intro h
    obtain ⟨hdenotes, hrange⟩ := integerOfChars_eq_ok_iff.mp h
    by_cases hsign : n < 0 → t.signed = true
    · have heq := hdenotes.unique (denotes_text hsign)
      exact ⟨heq, heq ▸ hrange⟩
    · -- the text of a negative integer denotes nothing for a type without sign
      obtain ⟨hn, hsigned⟩ := Classical.not_imp.mp hsign
      rw [integerOfChars_of_refuses (refuses_text_of_unsigned hn (by simpa using hsigned))] at h
      exact absurd h (by simp)
  · rintro ⟨rfl, hrange⟩
    exact integerOfChars_of_denotes (denotes_text (signed_of_inRange hrange)) hrange

end IntType

/-! ### Coercions -/

namespace Coerce

variable {t : IntType} {s : String} {n : Int}

theorem integer_eq_ok_iff : integer t s = .ok n ↔
    t.Denotes (Text.trimChars s.toList) n ∧ t.InRange n := by
  rw [← IntType.integerOfChars_eq_ok_iff, integer, trimmed]
  cases integerOfChars t (Text.trimChars s.toList) <;> simp

theorem integer_eq_error_iff {reason : FormatError} : integer t s = .error reason ↔
    ∃ fault, reason = .unreadable s t.name (some fault) ∧
      t.Refuses (Text.trimChars s.toList) fault := by
  simp only [← IntType.integerOfChars_eq_error_iff, integer, trimmed]
  cases integerOfChars t (Text.trimChars s.toList) <;> simp [eq_comm]

theorem integer_toString_eq_ok_iff {v : Int} :
    integer t (toString n) = .ok v ↔ v = n ∧ t.InRange n := by
  rw [← IntType.integerOfChars_text_eq_ok_iff, integer, trimmed,
    (IntType.trimmed_text n).trimChars_eq]
  cases integerOfChars t (toString n).toList <;> simp

end Coerce

/-! ### Typed reads -/

namespace Coerce

/-- A text is read as an integer if, trimmed, it denotes this integer and the type has it. Else it is
refused with the one fault that it has, which is the empty text only where nothing is left after
trimming. A number of a document that is an integer is read as itself by the types that have it,
and has the wrong format for the others. -/
theorem integer_exact (t : IntType) :
    (∀ s n, integer t s = .ok n ↔ t.Denotes (Text.trimChars s.toList) n ∧ t.InRange n) ∧
    (∀ s reason, integer t s = .error reason ↔
      ∃ fault, reason = .unreadable s t.name (some fault) ∧
        t.Refuses (Text.trimChars s.toList) fault) ∧
    (∀ s, integer t s = .error (.unreadable s t.name (some .integerEmpty)) ↔
      Text.trimChars s.toList = []) ∧
    (∀ (tree : Tree) (path : String) (n : Int), tree.lookup path = .ok (.number (.int n)) →
      (∀ v, (tree.getAs path none (integer t)).value = .ok v ↔ v = n ∧ t.InRange n) ∧
      (¬ t.InRange n → ∃ reason,
        (tree.getAs path none (integer t)).value = .error (.wrongFormat path reason))) := by
  refine ⟨fun s n => integer_eq_ok_iff, fun s reason => integer_eq_error_iff, ?_, ?_⟩
  · intro s
    have hempty : t.Refuses (Text.trimChars s.toList) .integerEmpty ↔ Text.trimChars s.toList = [] :=
      IntType.refuses_integerEmpty_iff
    rw [integer_eq_error_iff, ← hempty]
    simp
  · intro tree path n hnode
    have hread : (tree.getAs path none (integer t)).value =
        (integer t (toString n)).mapError (.wrongFormat path) :=
      Tree.value_getAs_of_text hnode rfl (integer t)
    constructor
    · intro v
      rw [hread, ← integer_toString_eq_ok_iff]
      cases integer t (toString n) <;> simp [Except.mapError]
    · intro hout
      cases hresult : integer t (toString n) with
      | ok v => exact absurd (integer_toString_eq_ok_iff.mp hresult).2 hout
      | error reason => exact ⟨reason, by rw [hread, hresult]; rfl⟩

/-- One below the range of a type and inside that of the next one, and a text that is too large
before it stops being digits. -/
theorem integer_exact_sample :
    ∃ tree : Tree, tree.lookup "n" = .ok (.number (.int (-129))) ∧
      ¬ IntType.i8.InRange (-129) ∧
      (∃ reason, (tree.getAs "n" none (integer .i8)).value = .error (.wrongFormat "n" reason)) ∧
      (tree.getAs "n" none (integer .i16)).value = .ok (-129) ∧
      integer .u8 " +300x " =
        .error (.unreadable " +300x " IntType.u8.name (some .integerTooLarge)) := by
  let tree : Tree := .ofEntries [("n", .number (.int (-129)))]
  have hnode : tree.lookup "n" = .ok (.number (.int (-129))) := rfl
  have hout : ¬ IntType.i8.InRange (-129) := by decide
  have hin : IntType.i16.InRange (-129) := by decide
  have hpasses : IntType.u8.Passes false ['3', '0'] := by
    rw [IntType.passes_iff]
    exact ⟨by simp, by decide⟩
  have hstops : IntType.u8.Stops false ['3', '0'] '0' .integerTooLarge :=
    .tooLarge (by decide) (by decide)
  have hrefuses : IntType.u8.Refuses ['+', '3', '0', '0', 'x'] .integerTooLarge :=
    .stop (.plus _) ⟨['3', '0'], '0', ['x'], rfl, hpasses, hstops⟩
  obtain ⟨-, herror, -, -⟩ := integer_exact .u8
  exact ⟨tree, hnode, hout, ((integer_exact .i8).2.2.2 tree "n" _ hnode).2 hout,
    (((integer_exact .i16).2.2.2 tree "n" _ hnode).1 _).mpr ⟨rfl, hin⟩,
    (herror _ _).mpr ⟨_, rfl, hrefuses⟩⟩

end Coerce

end ConfigLayers
