import ConfigLayers.Proofs.Binary64.Value
import ConfigLayers.Proofs.Coerce.Integers
import ConfigLayers.Document.Read

/-!
# Reading doubles as integers

A double that stands for an integer of magnitude below `2 ^ 63` is written like that integer, and so
read by every type that has it. Every other double is written with a point or an exponent, which no
integer has. So the least signed integer of 64 bits and the upper half of the unsigned ones are
refused when they come as doubles, although the types have them.
-/

namespace ConfigLayers

/-! ### Texts of doubles -/

namespace Layout

theorem point_mem_positional (digits : List Char) (exponent : Int) :
    '.' ∈ (document.positional digits exponent).toList := by
  simp only [positional]
  split
  · simp
  · split <;> simp [document]

theorem mark_mem_scientific (digits : List Char) (exponent : Int) :
    'e' ∈ (document.scientific digits exponent).toList := by
  have hmark : 'e' ∈ (if exponent < 0 then "e-" else document.mark).toList := by
    split <;> decide
  simp only [scientific, String.toList_append, List.mem_append]
  exact .inl (.inr hmark)

/-- The text of a double in a document has a point or an exponent. -/
theorem exists_mark_mem_text (x : Binary64) :
    ∃ c ∈ (document.text x).toList, c = '.' ∨ c = 'e' := by
  simp only [text, String.toList_append]
  generalize x.shortest document.tie = s
  by_cases hpositional : document.isPositional s.exponent = true
  · rw [if_pos hpositional]
    exact ⟨'.', List.mem_append_right _ (point_mem_positional _ _), .inl rfl⟩
  · rw [if_neg hpositional]
    exact ⟨'e', List.mem_append_right _ (mark_mem_scientific _ _), .inr rfl⟩

end Layout

namespace Coerce

variable {type : IntType} {s : String} {n : Int}

/-- A text that is read as an integer has only signs, digits and white space. -/
theorem isDigit_of_integer_eq_ok (h : integer type s = .ok n) {c : Char} (hc : c ∈ s.toList) :
    Text.isBlank c = true ∨ c = '+' ∨ c = '-' ∨ c.isDigit = true := by
  obtain ⟨⟨sign, negative, ds, hsign, htrim, -, hdigits, -⟩, -⟩ := integer_eq_ok_iff.mp h
  obtain ⟨before, after, hbefore, hafter, hs⟩ := Text.exists_append_trimChars s.toList
  rw [← hs, htrim] at hc
  simp only [List.mem_append] at hc
  rcases hc with (hc | hc | hc) | hc
  · exact .inl (hbefore c hc)
  · cases hsign with
    | none => exact absurd hc List.not_mem_nil
    | plus => exact .inr (.inl (List.mem_singleton.mp hc))
    | minus => exact .inr (.inr (.inl (List.mem_singleton.mp hc)))
  · exact .inr (.inr (.inr (hdigits c hc)))
  · exact .inl (hafter c hc)

/-- The text of a double in a document is read as no integer. -/
theorem integer_text_ne_ok (x : Binary64) : integer type (Layout.document.text x) ≠ .ok n := by
  intro h
  obtain ⟨c, hc, rfl | rfl⟩ := Layout.exists_mark_mem_text x
  · exact absurd (isDigit_of_integer_eq_ok h hc) (by decide)
  · exact absurd (isDigit_of_integer_eq_ok h hc) (by decide)

/-- The text that reads of a double start from is read as the integer that the double stands for,
if this lies between `-2 ^ 63` and `2 ^ 63` and the type has it. -/
theorem integer_scalarText_eq_ok_iff {x : Binary64} :
    integer type (Number.double x).scalarText = .ok n ↔
      x.value = n ∧ (-2 ^ 63 < n ∧ n < 2 ^ 63) ∧ type.InRange n := by
  rw [Number.scalarText, ← Binary64.toInt?_eq_some_iff]
  cases x.toInt? with
  | none => simp [integer_text_ne_ok]
  | some m =>
    have hsmall : m.natAbs < pow2 63 ↔ -2 ^ 63 < m ∧ m < 2 ^ 63 := by
      rw [show pow2 63 = 2 ^ 63 from rfl]
      omega
    simp only [hsmall, Option.some.injEq]
    split
    · next hbetween =>
      rw [integer_toString_eq_ok_iff]
      constructor
      · rintro ⟨rfl, hrange⟩
        exact ⟨rfl, hbetween, hrange⟩
      · rintro ⟨rfl, -, hrange⟩
        exact ⟨rfl, hrange⟩
    · next hbeyond =>
      constructor
      · intro h
        exact absurd h (integer_text_ne_ok x)
      · rintro ⟨rfl, hbetween, -⟩
        exact absurd hbetween hbeyond

/-- The integer types of the machine words. -/
def wordTypes : List IntType := [.u8, .u16, .u32, .u64, .i8, .i16, .i32, .i64]

/-- Of the integers of the word types only the least one and the upper half of those of 64 bits do
not lie between `-2 ^ 63` and `2 ^ 63`. -/
theorem between_iff_of_inRange (htype : type ∈ wordTypes) (hrange : type.InRange n) :
    (-2 ^ 63 < n ∧ n < 2 ^ 63) ↔
      ¬ (type = .i64 ∧ n = -2 ^ 63) ∧ ¬ (type = .u64 ∧ 2 ^ 63 ≤ n) := by
  simp only [wordTypes, List.mem_cons, List.not_mem_nil, or_false] at htype
  rcases htype with rfl | rfl | rfl | rfl | rfl | rfl | rfl | rfl <;>
    simp [IntType.InRange, IntType.u8, IntType.u16, IntType.u32, IntType.u64, IntType.i8,
      IntType.i16, IntType.i32, IntType.i64] at hrange ⊢ <;> omega

section Read

variable {tree : Tree} {path : String} {x : Binary64}
  (hnode : tree.lookup path = .ok (.number (.double x)))

include hnode

theorem value_getAs_double_eq_ok_iff : (tree.getAs path none (integer type)).value = .ok n ↔
    x.value = n ∧ (-2 ^ 63 < n ∧ n < 2 ^ 63) ∧ type.InRange n := by
  rw [Tree.value_getAs_of_text hnode rfl, mapError_eq_ok_iff, integer_scalarText_eq_ok_iff]

end Read

/-- A double is read as the integer that it stands for by every type that has it, if this integer
lies between `-2 ^ 63` and `2 ^ 63`. In every other case it has the wrong format. So among the
integers of the word types those that are refused are the least one and the upper half of those of
64 bits. -/
theorem integer_of_double (type : IntType) (tree : Tree) (path : String) (x : Binary64)
    (hnode : tree.lookup path = .ok (.number (.double x))) :
    (∀ n, (tree.getAs path none (integer type)).value = .ok n ↔
      x.value = n ∧ (-2 ^ 63 < n ∧ n < 2 ^ 63) ∧ type.InRange n) ∧
    (∀ n : Int, type ∈ wordTypes → x.value = n → type.InRange n →
      ((tree.getAs path none (integer type)).value = .ok n ↔
        ¬ (type = .i64 ∧ n = -2 ^ 63) ∧ ¬ (type = .u64 ∧ 2 ^ 63 ≤ n))) ∧
    ((∀ n, (tree.getAs path none (integer type)).value ≠ .ok n) → ∃ reason,
      (tree.getAs path none (integer type)).value = .error (.wrongFormat path reason)) := by
  refine ⟨fun n => value_getAs_double_eq_ok_iff hnode, ?_, Tree.wrongFormat_of_read hnode⟩
  intro n htype hvalue hrange
  rw [value_getAs_double_eq_ok_iff hnode, ← between_iff_of_inRange htype hrange]
  constructor
  · rintro ⟨-, hbetween, -⟩
    exact hbetween
  · intro hbetween
    exact ⟨hvalue, hbetween, hrange⟩

/-! ### At the ends of the range -/

/-- The double `8080.0`. -/
def port : Binary64 := ⟨false, 8080 * pow2 40, -40, by decide⟩

/-- The double `-2 ^ 63`. -/
def leastSigned : Binary64 := ⟨true, pow2 52, 11, by decide⟩

/-- The double `2 ^ 63`. -/
def halfUnsigned : Binary64 := ⟨false, pow2 52, 11, by decide⟩

/-- A document with these doubles. -/
def doublesText : String :=
  r#"{"half":9223372036854775808.0,"least":-9223372036854775808.0,"port":8080.0}"#

def doubles : Tree :=
  .ofEntries [("half", .number (.double halfUnsigned)), ("least", .number (.double leastSigned)),
    ("port", .number (.double port))]

theorem parse_doublesText : Document.parse "main" doublesText = .ok doubles := by
  have hformat : Format.ofPath "main" = .json := by decide
  rw [Document.parse, hformat]
  simp only [doublesText, Json.parse?, Json.parseWithin?, String.reduceToList]
  rfl

/-- The double of a port is read by the types that have it; the zero fraction is no hindrance. -/
theorem integer_of_double_port :
    doubles.lookup "port" = .ok (.number (.double port)) ∧
      (doubles.getAs "port" none (integer .u16)).value = .ok 8080 ∧
      ∃ reason, (doubles.getAs "port" none (integer .i8)).value =
        .error (.wrongFormat "port" reason) := by
  have hnode : doubles.lookup "port" = .ok (.number (.double port)) := rfl
  have hvalue : port.value = (8080 : Int) := Binary64.toInt?_eq_some_iff.mp (by decide)
  obtain ⟨hread, -, -⟩ := integer_of_double .u16 doubles "port" port hnode
  obtain ⟨hsmall, -, hrefused⟩ := integer_of_double .i8 doubles "port" port hnode
  refine ⟨hnode, (hread 8080).mpr ⟨hvalue, by decide, by decide⟩, hrefused ?_⟩
  intro n hn
  obtain ⟨hn, -, hrange⟩ := (hsmall n).mp hn
  rw [hvalue, Int.cast_inj] at hn
  exact absurd (hn ▸ hrange) (by decide)

/-- The least signed integer and the first one of the upper half of the unsigned ones are refused by
the types that have them, when a document has them as doubles. -/
theorem integral_doubles_refused :
    Document.parse "main" doublesText = .ok doubles ∧
      (leastSigned.value = (-2 ^ 63 : Int) ∧ IntType.i64.InRange (-2 ^ 63) ∧
        (doubles.getAs "least" none (integer .i64)).value ≠ .ok (-2 ^ 63)) ∧
      (halfUnsigned.value = (2 ^ 63 : Int) ∧ IntType.u64.InRange (2 ^ 63) ∧
        (doubles.getAs "half" none (integer .u64)).value ≠ .ok (2 ^ 63)) := by
  have hleast : leastSigned.value = (-2 ^ 63 : Int) := Binary64.toInt?_eq_some_iff.mp (by decide)
  have hhalf : halfUnsigned.value = (2 ^ 63 : Int) := Binary64.toInt?_eq_some_iff.mp (by decide)
  refine ⟨parse_doublesText, ⟨hleast, by decide, ?_⟩, ⟨hhalf, by decide, ?_⟩⟩
  · intro hread
    obtain ⟨-, hbetween, -⟩ := (value_getAs_double_eq_ok_iff rfl).mp hread
    exact absurd hbetween (by decide)
  · intro hread
    obtain ⟨-, hbetween, -⟩ := (value_getAs_double_eq_ok_iff rfl).mp hread
    exact absurd hbetween (by decide)

end Coerce

end ConfigLayers
