import Mathlib.Algebra.Ring.Int.Defs
import Mathlib.Data.List.Induction
import ConfigLayers.Coerce

/-!
# Numerals of integers

A numeral is a sign and digits. It is read as an integer of a type if it denotes one in the range of
the type. Every other text has one fault: it is empty, it has no digits after its sign, or there is
a first character, from the left, at which the reading stops.
-/

namespace ConfigLayers

/-- The integer that a sign and digits denote. -/
def Decimal.signedValue (negative : Bool) (ds : List Char) : Int :=
  Binary64.signed negative (digitsValue ds)

namespace IntType

variable {t : IntType} {negative : Bool} {n : Int} {c : Char} {cs ds : List Char} {fault : Fault}

/-! ### Ranges -/

/-- The integers of the type, in two's complement if it is signed. -/
def InRange (t : IntType) (n : Int) : Prop :=
  if t.signed then -(2 ^ (t.bits - 1)) ≤ n ∧ n < 2 ^ (t.bits - 1) else 0 ≤ n ∧ n < 2 ^ t.bits

theorem inRange_iff : t.InRange n ↔ t.least ≤ n ∧ n ≤ t.greatest := by
  have hpow : ∀ k, (pow2 k : Int) = 2 ^ k := fun k => by simp [pow2]
  rw [InRange, least, greatest]
  split <;> rw [hpow] <;> omega

instance (t : IntType) (n : Int) : Decidable (t.InRange n) :=
  decidable_of_iff (t.least ≤ n ∧ n ≤ t.greatest) inRange_iff.symm

theorem least_le_zero (t : IntType) : t.least ≤ 0 := by
  rw [least]
  split <;> omega

theorem zero_le_greatest (t : IntType) : 0 ≤ t.greatest := by
  have hpos := pow2_pos
  rw [greatest]
  split
  · have := hpos (t.bits - 1)
    omega
  · have := hpos t.bits
    omega

/-- A type without sign has no negative integers. -/
theorem signed_of_inRange (h : t.InRange n) (hn : n < 0) : t.signed = true := by
  rw [InRange] at h
  split at h
  · assumption
  · omega

/-! ### Digits -/

/-- The reading stops at `c` after the digits `front`. At a character that is no digit there is no
question of the range. -/
inductive Stops (t : IntType) (negative : Bool) (front : List Char) (c : Char) : Fault → Prop
  | noDigit (h : c.isDigit = false) : Stops t negative front c .integerDigit
  | tooLarge (hdigit : c.isDigit = true)
      (h : t.greatest < Decimal.signedValue negative (front ++ [c])) :
      Stops t negative front c .integerTooLarge
  | tooSmall (hdigit : c.isDigit = true)
      (h : Decimal.signedValue negative (front ++ [c]) < t.least) :
      Stops t negative front c .integerTooSmall

/-- The reading stops nowhere. -/
def Passes (t : IntType) (negative : Bool) (cs : List Char) : Prop :=
  ∀ front c back, cs = front ++ c :: back → ∀ fault, ¬ t.Stops negative front c fault

/-- The first place, from the left, where the reading stops, and the fault that is met there. -/
def FirstStop (t : IntType) (negative : Bool) (cs : List Char) (fault : Fault) : Prop :=
  ∃ front c back, cs = front ++ c :: back ∧ t.Passes negative front ∧
    t.Stops negative front c fault

/-- It does not stop at a digit that keeps the integer in range. -/
theorem not_stops_iff : (∀ fault, ¬ t.Stops negative ds c fault) ↔
    c.isDigit = true ∧ t.InRange (Decimal.signedValue negative (ds ++ [c])) := by
  rw [inRange_iff]
  constructor
  · intro h
    have hdigit : c.isDigit = true := by
      rw [← Bool.not_eq_false]
      intro hno
      exact h _ (.noDigit hno)
    exact ⟨hdigit, Int.not_lt.mp fun hsmall => h _ (.tooSmall hdigit hsmall),
      Int.not_lt.mp fun hlarge => h _ (.tooLarge hdigit hlarge)⟩
  · rintro ⟨hdigit, hleast, hgreatest⟩ fault hstops
    cases hstops with
    | noDigit h => simp [hdigit] at h
    | tooLarge _ h => omega
    | tooSmall _ h => omega

theorem signedValue_concat (negative : Bool) (ds : List Char) (c : Char) :
    Decimal.signedValue negative (ds ++ [c]) =
      if negative then 10 * Decimal.signedValue negative ds - Decimal.digitValue c
      else 10 * Decimal.signedValue negative ds + Decimal.digitValue c := by
  rw [Decimal.signedValue, Decimal.signedValue, Decimal.digitsValue, List.foldl_append]
  cases negative <;> simp [Binary64.signed, Decimal.digitsValue]; omega

theorem addDigit_signedValue (t : IntType) (negative : Bool) (ds : List Char) (c : Char) :
    Coerce.addDigit t negative (Decimal.signedValue negative ds) c =
      if c.isDigit then
        if Decimal.signedValue negative (ds ++ [c]) < t.least then .error .integerTooSmall
        else if t.greatest < Decimal.signedValue negative (ds ++ [c]) then .error .integerTooLarge
        else .ok (Decimal.signedValue negative (ds ++ [c]))
      else .error .integerDigit := by
  rw [Coerce.addDigit, signedValue_concat]

/-- A digit is added where the reading does not stop. -/
theorem addDigit_of_not_stops (h : ∀ fault, ¬ t.Stops negative ds c fault) :
    Coerce.addDigit t negative (Decimal.signedValue negative ds) c =
      .ok (Decimal.signedValue negative (ds ++ [c])) := by
  obtain ⟨hdigit, hrange⟩ := not_stops_iff.mp h
  obtain ⟨hleast, hgreatest⟩ := inRange_iff.mp hrange
  rw [addDigit_signedValue, if_pos hdigit, if_neg (Int.not_lt.mpr hleast),
    if_neg (Int.not_lt.mpr hgreatest)]

theorem addDigit_of_stops (h : t.Stops negative ds c fault) :
    Coerce.addDigit t negative (Decimal.signedValue negative ds) c = .error fault := by
  rw [addDigit_signedValue]
  cases h with
  | noDigit h => rw [h, if_neg Bool.false_ne_true]
  | tooLarge hdigit h =>
    have hnot : ¬ Decimal.signedValue negative (ds ++ [c]) < t.least := by
      have := t.least_le_zero
      have := t.zero_le_greatest
      omega
    rw [if_pos hdigit, if_neg hnot, if_pos h]
  | tooSmall hdigit h => rw [if_pos hdigit, if_pos h]

/-! ### Runs of digits -/

theorem passes_nil (t : IntType) (negative : Bool) : t.Passes negative [] := by
  intro front c back h
  exact absurd h (by simp)

theorem passes_concat_iff :
    t.Passes negative (cs ++ [c]) ↔
      t.Passes negative cs ∧ ∀ fault, ¬ t.Stops negative cs c fault := by
  constructor
  · intro h
    refine ⟨?_, h cs c [] rfl⟩
    intro front d back hcs
    exact h front d (back ++ [c]) (by rw [hcs, List.append_assoc, List.cons_append])
  · rintro ⟨hpasses, hstops⟩ front d back hcs
    -- the place is the last one or one of those before it
    rcases List.eq_nil_or_concat back with rfl | ⟨init, last, rfl⟩
    · obtain ⟨rfl, hd⟩ := List.append_inj' hcs rfl
      rw [← (List.cons.inj hd).1]
      exact hstops
    · rw [List.concat_eq_append, ← List.cons_append, ← List.append_assoc] at hcs
      exact hpasses front d init (List.append_inj' hcs rfl).1

/-- What passes is read to its end. -/
theorem foldlM_addDigit_of_passes (h : t.Passes negative cs) :
    cs.foldlM (Coerce.addDigit t negative) 0 = .ok (Decimal.signedValue negative cs) := by
  -- from the right, as the state after a run is the integer of the run
  induction cs using List.reverseRecOn with
  | nil => cases negative <;> rfl
  | append_singleton cs c ih =>
    obtain ⟨hpasses, hstops⟩ := passes_concat_iff.mp h
    rw [List.foldlM_append, ih hpasses]
    show [c].foldlM (Coerce.addDigit t negative) (Decimal.signedValue negative cs) = _
    rw [List.foldlM_cons, addDigit_of_not_stops hstops]
    rfl

/-- What does not pass is read to the first place where the reading stops. -/
theorem foldlM_addDigit_of_firstStop (h : t.FirstStop negative cs fault) :
    cs.foldlM (Coerce.addDigit t negative) 0 = .error fault := by
  obtain ⟨front, c, back, rfl, hpasses, hstops⟩ := h
  rw [List.foldlM_append, foldlM_addDigit_of_passes hpasses]
  show (c :: back).foldlM (Coerce.addDigit t negative) (Decimal.signedValue negative front) = _
  rw [List.foldlM_cons, addDigit_of_stops hstops]
  rfl

theorem FirstStop.ne_nil (h : t.FirstStop negative cs fault) : cs ≠ [] := by
  obtain ⟨front, c, back, rfl, -, -⟩ := h
  simp

/-- A run passes, or there is a first place where the reading stops. -/
theorem passes_or_exists_firstStop (t : IntType) (negative : Bool) (cs : List Char) :
    t.Passes negative cs ∨ ∃ fault, t.FirstStop negative cs fault := by
  induction cs using List.reverseRecOn with
  | nil => exact .inl (passes_nil t negative)
  | append_singleton cs c ih =>
    rcases ih with hpasses | ⟨fault, front, d, back, rfl, hpasses, hstops⟩
    · by_cases hstops : ∃ fault, t.Stops negative cs c fault
      · obtain ⟨fault, hstops⟩ := hstops
        exact .inr ⟨fault, cs, c, [], rfl, hpasses, hstops⟩
      · exact .inl (passes_concat_iff.mpr ⟨hpasses, fun fault h => hstops ⟨fault, h⟩⟩)
    · exact .inr ⟨fault, front, d, back ++ [c], by simp, hpasses, hstops⟩

/-- With every digit the integer goes away from zero. -/
theorem inRange_of_concat (h : t.InRange (Decimal.signedValue negative (ds ++ [c]))) :
    t.InRange (Decimal.signedValue negative ds) := by
  have hleast := t.least_le_zero
  have hgreatest := t.zero_le_greatest
  rw [inRange_iff, signedValue_concat] at h
  rw [inRange_iff]
  rw [Decimal.signedValue] at h ⊢
  cases negative <;> simp [Binary64.signed] at h ⊢ <;> omega

/-- A run passes if it has only digits and what they denote is in range. -/
theorem passes_iff : t.Passes negative cs ↔
    (∀ c ∈ cs, c.isDigit = true) ∧ t.InRange (Decimal.signedValue negative cs) := by
  induction cs using List.reverseRecOn with
  | nil =>
    have hzero : t.InRange (Decimal.signedValue negative []) := by
      have hvalue : Decimal.signedValue negative [] = 0 := by cases negative <;> rfl
      rw [hvalue, inRange_iff]
      exact ⟨t.least_le_zero, t.zero_le_greatest⟩
    exact ⟨fun _ => ⟨by simp, hzero⟩, fun _ => passes_nil t negative⟩
  | append_singleton cs c ih =>
    rw [passes_concat_iff, not_stops_iff, ih]
    constructor
    · rintro ⟨⟨hdigits, -⟩, hdigit, hrange⟩
      exact ⟨List.forall_mem_append.mpr ⟨hdigits, List.forall_mem_singleton.mpr hdigit⟩, hrange⟩
    · rintro ⟨hdigits, hrange⟩
      obtain ⟨hfront, hlast⟩ := List.forall_mem_append.mp hdigits
      exact ⟨⟨hfront, inRange_of_concat hrange⟩, hlast c List.mem_cons_self, hrange⟩

/-! ### Signs -/

/-- What may stand before the digits, and whether it makes the integer negative. -/
inductive Sign (t : IntType) : List Char → Bool → Prop
  | none : Sign t [] false
  | plus : Sign t ['+'] false
  | minus (h : t.signed = true) : Sign t ['-'] true

/-- The text is a sign of the type and one or more digits, which denote the integer. -/
def Denotes (t : IntType) (cs : List Char) (n : Int) : Prop :=
  ∃ sign negative ds, t.Sign sign negative ∧ cs = sign ++ ds ∧ ds ≠ [] ∧
    (∀ d ∈ ds, d.isDigit = true) ∧ n = Decimal.signedValue negative ds

/-- The sign of a text that is not empty, and the rest, where digits are expected. A minus that is
no sign of the type belongs to the rest. -/
inductive Divides (t : IntType) : List Char → Bool → List Char → Prop
  | plus (ds : List Char) : Divides t ('+' :: ds) false ds
  | minus (h : t.signed = true) (ds : List Char) : Divides t ('-' :: ds) true ds
  | none {c : Char} (hplus : c ≠ '+') (hminus : ¬ (c = '-' ∧ t.signed = true)) (ds : List Char) :
      Divides t (c :: ds) false (c :: ds)

/-- Why the text is no integer of the type. -/
inductive Refuses (t : IntType) : List Char → Fault → Prop
  | empty : Refuses t [] .integerEmpty
  | noDigits {cs : List Char} {negative : Bool} (h : t.Divides cs negative []) :
      Refuses t cs .integerDigit
  | stop {cs ds : List Char} {negative : Bool} {fault : Fault} (h : t.Divides cs negative ds)
      (hstop : t.FirstStop negative ds fault) : Refuses t cs fault

/-- Nothing but the empty text is refused as empty. -/
theorem refuses_integerEmpty_iff : t.Refuses cs .integerEmpty ↔ cs = [] := by
  constructor
  · intro h
    cases h with
    | empty => rfl
    | stop _ hstop =>
      obtain ⟨front, c, back, -, -, hstops⟩ := hstop
      nomatch hstops
  · rintro rfl
    exact .empty

theorem exists_divides (t : IntType) (hne : cs ≠ []) : ∃ negative ds, t.Divides cs negative ds := by
  cases cs with
  | nil => exact absurd rfl hne
  | cons c cs =>
    by_cases hplus : c = '+'
    · subst hplus
      exact ⟨_, _, .plus cs⟩
    · by_cases hminus : c = '-' ∧ t.signed = true
      · obtain ⟨rfl, hsigned⟩ := hminus
        exact ⟨_, _, .minus hsigned cs⟩
      · exact ⟨_, _, .none hplus hminus cs⟩

/-- A text that is not empty is divided in one way. -/
theorem Divides.unique {negative' : Bool} {ds' : List Char} (h : t.Divides cs negative ds)
    (h' : t.Divides cs negative' ds') : negative = negative' ∧ ds = ds' := by
  cases h <;> cases h' <;> simp_all

theorem integerOfChars_of_divides (h : t.Divides cs negative ds) :
    Coerce.integerOfChars t cs = Coerce.digits t negative ds := by
  cases h with
  | plus => rfl
  | minus hsigned => simp [Coerce.integerOfChars, hsigned]
  | none hplus hminus => rw [Coerce.integerOfChars, if_neg hplus, if_neg hminus]

/-- A sign before digits is taken for the sign. -/
theorem Sign.divides {sign : List Char} (h : t.Sign sign negative) (hne : ds ≠ [])
    (hdigits : ∀ d ∈ ds, d.isDigit = true) : t.Divides (sign ++ ds) negative ds := by
  cases h with
  | none =>
    cases ds with
    | nil => exact absurd rfl hne
    | cons d ds =>
      have hd := hdigits d List.mem_cons_self
      refine .none ?_ ?_ ds
      · rintro rfl
        simp at hd
      · rintro ⟨rfl, -⟩
        simp at hd
  | plus => exact .plus ds
  | minus hsigned => exact .minus hsigned ds

theorem Divides.exists_sign (h : t.Divides cs negative ds) :
    ∃ sign, t.Sign sign negative ∧ cs = sign ++ ds := by
  cases h with
  | plus => exact ⟨_, .plus, rfl⟩
  | minus hsigned => exact ⟨_, .minus hsigned, rfl⟩
  | none => exact ⟨_, .none, rfl⟩

/-- A text denotes at most one integer. -/
theorem Denotes.unique {m : Int} (h : t.Denotes cs m) (h' : t.Denotes cs n) : m = n := by
  obtain ⟨sign, negative, ds, hsign, rfl, hne, hdigits, rfl⟩ := h
  obtain ⟨sign', negative', ds', hsign', hcs, hne', hdigits', rfl⟩ := h'
  have hdivides := hsign.divides hne hdigits
  rw [hcs] at hdivides
  obtain ⟨rfl, rfl⟩ := hdivides.unique (hsign'.divides hne' hdigits')
  rfl

/-! ### Integers -/

theorem digits_eq_foldlM (t : IntType) (negative : Bool) (hne : ds ≠ []) :
    Coerce.digits t negative ds = ds.foldlM (Coerce.addDigit t negative) 0 := by
  cases ds with
  | nil => exact absurd rfl hne
  | cons d ds => rfl

/-- A text has a fault, or it denotes an integer of the type. -/
theorem refuses_or_denotes (t : IntType) (cs : List Char) :
    (∃ fault, t.Refuses cs fault) ∨ ∃ n, t.Denotes cs n ∧ t.InRange n := by
  by_cases hempty : cs = []
  · subst hempty
    exact .inl ⟨_, .empty⟩
  obtain ⟨negative, ds, hdivides⟩ := t.exists_divides hempty
  by_cases hnone : ds = []
  · subst hnone
    exact .inl ⟨_, .noDigits hdivides⟩
  rcases t.passes_or_exists_firstStop negative ds with hpasses | ⟨fault, hstop⟩
  · obtain ⟨hdigits, hrange⟩ := passes_iff.mp hpasses
    obtain ⟨sign, hsign, hcs⟩ := hdivides.exists_sign
    exact .inr ⟨_, ⟨sign, negative, ds, hsign, hcs, hnone, hdigits, rfl⟩, hrange⟩
  · exact .inl ⟨fault, .stop hdivides hstop⟩

theorem integerOfChars_of_refuses (h : t.Refuses cs fault) :
    Coerce.integerOfChars t cs = .error fault := by
  cases h with
  | empty => rfl
  | noDigits h => rw [integerOfChars_of_divides h, Coerce.digits]
  | stop h hstop =>
    rw [integerOfChars_of_divides h, digits_eq_foldlM t _ hstop.ne_nil,
      foldlM_addDigit_of_firstStop hstop]

theorem integerOfChars_of_denotes (h : t.Denotes cs n) (hrange : t.InRange n) :
    Coerce.integerOfChars t cs = .ok n := by
  obtain ⟨sign, negative, ds, hsign, rfl, hne, hdigits, rfl⟩ := h
  rw [integerOfChars_of_divides (hsign.divides hne hdigits), digits_eq_foldlM t _ hne,
    foldlM_addDigit_of_passes (passes_iff.mpr ⟨hdigits, hrange⟩)]

/-- A text is read as an integer if it denotes this integer and the type has it. -/
theorem integerOfChars_eq_ok_iff :
    Coerce.integerOfChars t cs = .ok n ↔ t.Denotes cs n ∧ t.InRange n := by
  constructor
  · intro h
    rcases t.refuses_or_denotes cs with ⟨fault, hrefuses⟩ | ⟨m, hdenotes, hrange⟩
    · rw [integerOfChars_of_refuses hrefuses] at h
      exact absurd h (by simp)
    · rw [integerOfChars_of_denotes hdenotes hrange, Except.ok.injEq] at h
      exact h ▸ ⟨hdenotes, hrange⟩
  · rintro ⟨hdenotes, hrange⟩
    exact integerOfChars_of_denotes hdenotes hrange

/-- It is refused with its one fault. -/
theorem integerOfChars_eq_error_iff :
    Coerce.integerOfChars t cs = .error fault ↔ t.Refuses cs fault := by
  refine ⟨fun h => ?_, integerOfChars_of_refuses⟩
  rcases t.refuses_or_denotes cs with ⟨found, hrefuses⟩ | ⟨m, hdenotes, hrange⟩
  · rw [integerOfChars_of_refuses hrefuses, Except.error.injEq] at h
    exact h ▸ hrefuses
  · rw [integerOfChars_of_denotes hdenotes hrange] at h
    exact absurd h (by simp)

end IntType

end ConfigLayers
