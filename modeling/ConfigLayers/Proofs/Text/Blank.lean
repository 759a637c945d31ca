import Mathlib.Data.List.TakeWhile
import ConfigLayers.Text.Blank

/-!
# Trimming

Trimming takes outer white space away and nothing else: what is left has none, and stands between
blanks in the text. Both together determine it, so that blanks around a trimmed text do not matter.
-/

namespace ConfigLayers.Text

variable {cs word before after : List Char}

/-- There are only blanks. -/
def AllBlank (cs : List Char) : Prop := ∀ c ∈ cs, isBlank c = true

/-- There is no outer white space. -/
structure Trimmed (cs : List Char) : Prop where
  first : ∀ c ∈ cs.head?, isBlank c = false
  last : ∀ c ∈ cs.getLast?, isBlank c = false

instance (cs : List Char) : Decidable (AllBlank cs) := List.decidableBAll _ cs

theorem trimmed_iff : Trimmed cs ↔
    (∀ c ∈ cs.head?, isBlank c = false) ∧ ∀ c ∈ cs.getLast?, isBlank c = false :=
  ⟨fun h => ⟨h.first, h.last⟩, fun h => ⟨h.1, h.2⟩⟩

instance (cs : List Char) : Decidable (Trimmed cs) :=
  @decidable_of_iff _ _ trimmed_iff.symm
    (@instDecidableAnd _ _ (Option.decidableForallMem _) (Option.decidableForallMem _))

/-! ### At the start -/

theorem trimStart_append (h : AllBlank before) (cs : List Char) :
    trimStart (before ++ cs) = trimStart cs :=
  List.dropWhile_append_of_pos h

theorem trimStart_of_first (h : ∀ c ∈ cs.head?, isBlank c = false) : trimStart cs = cs := by
  cases cs with
  | nil => rfl
  | cons c cs =>
    have hc : isBlank c = false := h c rfl
    rw [trimStart, List.dropWhile_cons_of_neg (by simp [hc])]

theorem trimStart_of_allBlank (h : AllBlank cs) : trimStart cs = [] :=
  List.dropWhile_eq_nil_iff.mpr h

theorem exists_append_trimStart (cs : List Char) :
    ∃ before, AllBlank before ∧ before ++ trimStart cs = cs :=
  ⟨cs.takeWhile isBlank, fun _ hc => List.mem_takeWhile_imp hc, List.takeWhile_append_dropWhile⟩

theorem first_trimStart (cs : List Char) : ∀ c ∈ (trimStart cs).head?, isBlank c = false := by
  intro c hc
  have hfirst := List.head?_dropWhile_not isBlank cs
  rw [Option.mem_def, trimStart] at hc
  rw [hc] at hfirst
  simpa using hfirst

/-! ### At the end -/

theorem AllBlank.reverse (h : AllBlank cs) : AllBlank cs.reverse :=
  fun c hc => h c (List.mem_reverse.mp hc)

theorem trimEnd_append (cs : List Char) (h : AllBlank after) :
    trimEnd (cs ++ after) = trimEnd cs := by
  have hstart := trimStart_append h.reverse cs.reverse
  rw [← List.reverse_append] at hstart
  exact congrArg List.reverse hstart

theorem trimEnd_of_last (h : ∀ c ∈ cs.getLast?, isBlank c = false) : trimEnd cs = cs := by
  have hstart : trimStart cs.reverse = cs.reverse := by
    apply trimStart_of_first
    rwa [List.head?_reverse]
  rw [trimEnd, ← trimStart, hstart, List.reverse_reverse]

theorem exists_trimEnd_append (cs : List Char) :
    ∃ after, AllBlank after ∧ trimEnd cs ++ after = cs := by
  obtain ⟨before, hbefore, hcs⟩ := exists_append_trimStart cs.reverse
  refine ⟨before.reverse, hbefore.reverse, ?_⟩
  rw [trimEnd, ← trimStart, ← List.reverse_append, hcs, List.reverse_reverse]

theorem last_trimEnd (cs : List Char) : ∀ c ∈ (trimEnd cs).getLast?, isBlank c = false := by
  rw [trimEnd, List.getLast?_reverse]
  exact first_trimStart cs.reverse

/-- The trimmed end leaves the first character where it is. -/
theorem first_trimEnd (h : ∀ c ∈ cs.head?, isBlank c = false) :
    ∀ c ∈ (trimEnd cs).head?, isBlank c = false := by
  obtain ⟨after, -, hcs⟩ := exists_trimEnd_append cs
  intro c hc
  apply h
  rw [← hcs, List.head?_append, Option.mem_def.mp hc]
  rfl

/-! ### At both sides -/

theorem trimmed_trimChars (cs : List Char) : Trimmed (trimChars cs) where
  first := first_trimEnd (first_trimStart cs)
  last := last_trimEnd (trimStart cs)

/-- Trimming takes only blanks away. -/
theorem exists_append_trimChars (cs : List Char) :
    ∃ before after, AllBlank before ∧ AllBlank after ∧ before ++ trimChars cs ++ after = cs := by
  obtain ⟨before, hbefore, hstart⟩ := exists_append_trimStart cs
  obtain ⟨after, hafter, hend⟩ := exists_trimEnd_append (trimStart cs)
  refine ⟨before, after, hbefore, hafter, ?_⟩
  rw [trimChars, List.append_assoc, hend, hstart]

/-- Blanks around a trimmed text are taken away. -/
theorem trimChars_append (h : Trimmed word) (hbefore : AllBlank before) (hafter : AllBlank after) :
    trimChars (before ++ word ++ after) = word := by
  rw [List.append_assoc, trimChars, trimStart_append hbefore]
  cases word with
  | nil =>
    -- the blanks of both sides meet, and go at the start
    rw [List.nil_append, trimStart_of_allBlank hafter, trimEnd_nil]
  | cons c rest =>
    have hstart : trimStart (c :: rest ++ after) = c :: rest ++ after :=
      trimStart_of_first h.first
    rw [hstart, trimEnd_append _ hafter, trimEnd_of_last h.last]

theorem Trimmed.trimChars_eq (h : Trimmed cs) : trimChars cs = cs := by
  have hnone : AllBlank [] := fun c hc => absurd hc List.not_mem_nil
  simpa using trimChars_append h hnone hnone

theorem trimmed_of_forall (h : ∀ c ∈ cs, isBlank c = false) : Trimmed cs where
  first c hc := h c (List.mem_of_mem_head? hc)
  last c hc := h c (List.mem_of_mem_getLast? hc)

end ConfigLayers.Text
