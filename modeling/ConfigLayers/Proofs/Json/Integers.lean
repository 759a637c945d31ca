import ConfigLayers.Json.Parser
import ConfigLayers.Json.Printer

/-!
# Written integers are read back

An integer is written with its digits and without leading zeros, so that the reader takes all of
them if something follows that does not continue a numeral. It finds no point and no exponent and
keeps the integer as one.
-/

namespace ConfigLayers

/-! ### Readers -/

namespace Reader

variable {α β : Type}

theorem bind_of_eq_some {p : Reader α} {f : α → Reader β} {cs rest : List Char} {a : α}
    (h : p cs = some (a, rest)) : (p >>= f) cs = f a rest := by
  simp [bind, StateT.bind, h]

theorem guard_of_true {p : Prop} [Decidable p] (h : p) (cs : List Char) :
    (guard p : Reader Unit) cs = some ((), cs) := by
  show (if p then pure () else failure : Reader Unit) cs = some ((), cs)
  rw [if_pos h]
  rfl

/-- A run ends where the first character is of another class. -/
theorem run1_append {p : Char → Bool} {cs rest : List Char} (hne : cs ≠ []) (h : ∀ c ∈ cs, p c)
    (hrest : ∀ c ∈ rest.head?, ¬ p c) : run1 p (cs ++ rest) = some (cs, rest) := by
  have hend : rest.takeWhile p = [] ∧ rest.dropWhile p = rest := by
    cases rest with
    | nil => exact ⟨rfl, rfl⟩
    | cons c rest => simp_all
  have hrun : run p (cs ++ rest) = some (cs, rest) := by
    rw [run, List.takeWhile_append_of_pos h, List.dropWhile_append_of_pos h, hend.1, hend.2,
      List.append_nil]
  rw [run1, bind_of_eq_some hrun, bind_of_eq_some (guard_of_true hne rest)]
  rfl

end Reader

/-! ### Digits -/

namespace Decimal

theorem digitsValue_toDigits (n : Nat) : digitsValue (Nat.toDigits 10 n) = n := by
  have hvalue : digitsValue (Nat.toDigits 10 n) = Nat.ofDigitChars 10 (Nat.toDigits 10 n) 0 :=
    Nat.ofDigitChars_eq_foldl.symm
  rw [hvalue, Nat.ofDigitChars_ten_toDigits]

theorem le_foldl_digits (n : Nat) (cs : List Char) :
    n ≤ cs.foldl (fun n c => 10 * n + digitValue c) n := by
  induction cs generalizing n with
  | nil => exact Nat.le_refl n
  | cons c cs ih =>
    have hrest := ih (10 * n + digitValue c)
    rw [List.foldl_cons]
    omega

/-- Digits of a number below `2 ^ 64` all fit, because each beginning of them is below it too. -/
theorem appendDigits_of_lt {n : Nat} {cs : List Char}
    (h : cs.foldl (fun n c => 10 * n + digitValue c) n < pow2 64) :
    appendDigits n cs = (cs.foldl (fun n c => 10 * n + digitValue c) n, 0) := by
  induction cs generalizing n with
  | nil => rfl
  | cons c cs ih =>
    rw [List.foldl_cons] at h ⊢
    rw [appendDigits, if_pos (Nat.lt_of_le_of_lt (le_foldl_digits _ cs) h), ih h]

theorem ofLeadingDigits_toDigits {negative : Bool} {n : Nat} (h : n < pow2 64) :
    ofLeadingDigits negative (Nat.toDigits 10 n) [] 0 = ⟨negative, n, 0⟩ := by
  have hvalue := digitsValue_toDigits n
  rw [digitsValue] at hvalue
  have hfit : appendDigits 0 (Nat.toDigits 10 n) = (n, 0) := by
    rw [appendDigits_of_lt (by rwa [hvalue]), hvalue]
  rw [ofLeadingDigits, hfit]
  rfl

/-- A number that is not zero is written without leading zeros. -/
theorem head?_toDigits_ne {n : Nat} (h : n ≠ 0) : (Nat.toDigits 10 n).head? ≠ some '0' := by
  induction n using Nat.strongRecOn with
  | ind n ih =>
    rw [Nat.toDigits_eq_if (by decide)]
    split
    · next hlt =>
      have hdigit : ∀ d < 10, d ≠ 0 → [Nat.digitChar d].head? ≠ some '0' := by decide
      exact hdigit n hlt h
    · have hfirst : (Nat.toDigits 10 (n / 10)).head? ≠ some '0' := ih (n / 10) (by omega) (by omega)
      cases hdigits : Nat.toDigits 10 (n / 10) with
      | nil => exact absurd hdigits Nat.toDigits_ne_nil
      | cons d ds => simpa [hdigits] using hfirst

theorem exists_toDigits_eq_cons (n : Nat) :
    ∃ d ds, Nat.toDigits 10 n = d :: ds ∧ d.isDigit = true := by
  cases hdigits : Nat.toDigits 10 n with
  | nil => exact absurd hdigits Nat.toDigits_ne_nil
  | cons d ds =>
    have hmem : d ∈ Nat.toDigits 10 n := hdigits ▸ List.mem_cons_self
    exact ⟨d, ds, rfl, Nat.isDigit_of_mem_toDigits (by decide) (by decide) hmem⟩

end Decimal

namespace Json

/-! ### Numbers -/

/-- The text does not continue a numeral before it. -/
def EndsNumber (rest : List Char) : Prop :=
  ∀ c ∈ rest.head?, ¬ c.isDigit ∧ c ≠ '.' ∧ c ≠ 'e' ∧ c ≠ 'E'

theorem wholePart_toDigits (n : Nat) {rest : List Char} (h : EndsNumber rest) :
    wholePart (Nat.toDigits 10 n ++ rest) = some (Nat.toDigits 10 n, rest) := by
  have hrun : Reader.run1 Char.isDigit (Nat.toDigits 10 n ++ rest) =
      some (Nat.toDigits 10 n, rest) := by
    apply Reader.run1_append Nat.toDigits_ne_nil
    · intro c hc
      exact Nat.isDigit_of_mem_toDigits (by decide) (by decide) hc
    · intro c hc
      exact (h c hc).1
  have hzero : (Nat.toDigits 10 n).length = 1 ∨ (Nat.toDigits 10 n).head? ≠ some '0' := by
    by_cases hn : n = 0
    · subst hn
      exact .inl rfl
    · exact .inr (Decimal.head?_toDigits_ne hn)
  rw [wholePart, Reader.bind_of_eq_some hrun,
    Reader.bind_of_eq_some (Reader.guard_of_true hzero rest)]
  rfl

theorem fraction_of_endsNumber {rest : List Char} (h : EndsNumber rest) :
    fraction rest = some ([], rest) := by
  unfold fraction
  split
  · next cs => simp [EndsNumber] at h
  · rfl

theorem exponent_of_endsNumber {rest : List Char} (h : EndsNumber rest) :
    exponent rest = some (none, rest) := by
  cases rest with
  | nil => rfl
  | cons c rest =>
    have := h c rfl
    simp [exponent, this]

/-- The digits of an integer that is kept as an integer fit into 64 bits. -/
theorem lt_of_isInteger {negative : Bool} {n : Nat}
    (h : Number.IsInteger (Binary64.signed negative n)) : n < pow2 64 := by
  have hpow : pow2 64 = 2 * pow2 63 := pow2_succ 63
  obtain ⟨hleast, hgreatest⟩ := h
  cases negative with
  | false => exact Int.ofNat_lt.mp hgreatest
  | true =>
    have hpos : 0 < pow2 63 := pow2_pos 63
    have hle : n ≤ pow2 63 := Int.ofNat_le.mp (Int.neg_le_neg_iff.mp hleast)
    omega

theorem ofWhole?_toDigits {negative : Bool} {n : Nat}
    (h : Number.IsInteger (Binary64.signed negative n)) (hzero : ¬ (negative ∧ n = 0)) :
    Number.ofWhole? (.ofLeadingDigits negative (Nat.toDigits 10 n) [] 0) =
      some (.int (Binary64.signed negative n)) := by
  rw [Decimal.ofLeadingDigits_toDigits (lt_of_isInteger h), Number.ofWhole?]
  exact if_pos ⟨rfl, h, hzero⟩

/-- The digits of an integer that is kept as an integer are read as this integer. -/
theorem magnitude_toDigits {negative : Bool} {n : Nat} {rest : List Char}
    (h : Number.IsInteger (Binary64.signed negative n)) (hzero : ¬ (negative ∧ n = 0))
    (hrest : EndsNumber rest) :
    magnitude negative (Nat.toDigits 10 n ++ rest) =
      some (.int (Binary64.signed negative n), rest) := by
  rw [magnitude, Reader.bind_of_eq_some (wholePart_toDigits n hrest),
    Reader.bind_of_eq_some (fraction_of_endsNumber hrest),
    Reader.bind_of_eq_some (exponent_of_endsNumber hrest)]
  simp only [ofWhole?_toDigits h hzero]
  rfl

theorem toList_text_ofNat (n : Nat) : (Number.text (.int n)).toList = Nat.toDigits 10 n := by
  simp [Number.text, Int.toString_eq_repr, Int.repr_eq_if, Nat.toList_repr]

theorem toList_text_neg {n : Nat} (h : n ≠ 0) :
    (Number.text (.int (-n))).toList = '-' :: Nat.toDigits 10 n := by
  simp [Number.text, Int.toString_eq_repr, Int.repr_eq_if, h, Nat.toList_repr]

/-- An integer is written as a sign and digits. A minus never stands before zero. -/
theorem exists_toList_text (n : Int) :
    ∃ negative m, n = Binary64.signed negative m ∧ ¬ (negative ∧ m = 0) ∧
      (Number.text (.int n)).toList =
        (if negative then ['-'] else []) ++ Nat.toDigits 10 m := by
  by_cases hn : 0 ≤ n
  · obtain ⟨m, rfl⟩ := Int.eq_ofNat_of_zero_le hn
    exact ⟨false, m, rfl, by simp, toList_text_ofNat m⟩
  · obtain ⟨m, rfl⟩ : ∃ m : Nat, n = -m := ⟨n.natAbs, by omega⟩
    have hm : m ≠ 0 := by omega
    exact ⟨true, m, rfl, by simp [hm], toList_text_neg hm⟩

theorem exists_text_eq_cons (n : Int) :
    ∃ c cs, (Number.text (.int n)).toList = c :: cs ∧ (c.isDigit ∨ c = '-') := by
  obtain ⟨negative, m, -, -, htext⟩ := exists_toList_text n
  obtain ⟨d, ds, hdigits, hd⟩ := Decimal.exists_toDigits_eq_cons m
  rw [htext, hdigits]
  cases negative with
  | false => exact ⟨d, ds, rfl, .inl hd⟩
  | true => exact ⟨'-', d :: ds, rfl, .inr rfl⟩

/-- A written integer is read back. -/
theorem readNumber_text {n : Int} (h : Number.IsInteger n) {rest : List Char}
    (hrest : EndsNumber rest) :
    readNumber ((Number.text (.int n)).toList ++ rest) = some (.int n, rest) := by
  obtain ⟨negative, m, rfl, hzero, htext⟩ := exists_toList_text n
  have hmagnitude := magnitude_toDigits h hzero hrest
  rw [htext]
  cases negative with
  | false =>
    obtain ⟨d, ds, hdigits, hd⟩ := Decimal.exists_toDigits_eq_cons m
    rw [hdigits, List.cons_append] at hmagnitude
    have hminus : d ≠ '-' := by
      rintro rfl
      simp at hd
    simp [hdigits, readNumber, hminus, hmagnitude]
  | true => exact hmagnitude

end Json

end ConfigLayers
