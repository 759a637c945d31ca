import ConfigLayers.Proofs.Text.Blank
import ConfigLayers.Overlay.Argument

/-!
# Spelling arguments

An assignment is spelled as hyphens, a name, an equals sign and a value. Every token with an equals
sign is spelled so in exactly one way, and is read as the name and the value of this spelling. So
nothing of a token is lost but the number of its hyphens and the blanks around it.
-/

namespace ConfigLayers.Argument

variable {cs : List Char} {name value : String} {hyphens : Nat}

/-- The name can be read back: it goes on to the first equals sign and does not start as the hyphens
before it. -/
structure IsName (name : String) : Prop where
  equals : '=' ∉ name.toList
  hyphen : name.toList.head? ≠ some '-'

/-- The text of an assignment. -/
def spell (hyphens : Nat) (name value : String) : String :=
  String.ofList (List.replicate hyphens '-') ++ name ++ "=" ++ value

theorem toList_spell (hyphens : Nat) (name value : String) :
    (spell hyphens name value).toList =
      List.replicate hyphens '-' ++ (name.toList ++ '=' :: value.toList) := by
  simp [spell]

/-! ### Names and values -/

theorem ne_equals_of_mem (h : '=' ∉ cs) : ∀ c ∈ cs, decide (c ≠ '=') = true := by
  intro c hc
  rw [decide_eq_true_iff]
  rintro rfl
  exact h hc

theorem splitAssignment?_of_spelled (h : '=' ∉ name.toList) (value : String) :
    splitAssignment? (name.toList ++ '=' :: value.toList) = some (name, value) := by
  have hname := ne_equals_of_mem h
  rw [splitAssignment?, List.dropWhile_append_of_pos hname, List.takeWhile_append_of_pos hname]
  simp

theorem splitAssignment?_eq_none (h : '=' ∉ cs) : splitAssignment? cs = none := by
  have hnone : cs.dropWhile (· ≠ '=') = [] := List.dropWhile_eq_nil_iff.mpr (ne_equals_of_mem h)
  rw [splitAssignment?, hnone]

/-- A text with an equals sign is cut at the first one. -/
theorem exists_eq_append_equals (h : '=' ∈ cs) :
    ∃ name value : String, cs = name.toList ++ '=' :: value.toList ∧ '=' ∉ name.toList := by
  obtain ⟨front, back, rfl, hfront⟩ := List.eq_append_cons_of_mem h
  exact ⟨String.ofList front, String.ofList back, by simp, by simpa using hfront⟩

/-! ### Hyphens -/

theorem dropWhile_hyphens (hyphens : Nat) (h : cs.head? ≠ some '-') :
    (List.replicate hyphens '-' ++ cs).dropWhile (· = '-') = cs := by
  rw [List.dropWhile_append_of_pos (by simp)]
  cases cs with
  | nil => rfl
  | cons c cs =>
    rw [List.dropWhile_cons_of_neg]
    simpa using h

theorem exists_hyphens (cs : List Char) :
    ∃ hyphens rest, cs = List.replicate hyphens '-' ++ rest ∧ rest.head? ≠ some '-' := by
  induction cs with
  | nil => exact ⟨0, [], rfl, by simp⟩
  | cons c cs ih =>
    by_cases hc : c = '-'
    · obtain ⟨hyphens, rest, rfl, hrest⟩ := ih
      subst hc
      exact ⟨hyphens + 1, rest, rfl, hrest⟩
    · exact ⟨0, c :: cs, rfl, by simpa using hc⟩

/-! ### Trimmed tokens -/

theorem equals_mem_spell (hyphens : Nat) (name value : String) :
    '=' ∈ (spell hyphens name value).toList := by
  simp [toList_spell]

/-- A spelled assignment is read as its name and value. -/
theorem ofTrimmed_spell (h : IsName name) (hyphens : Nat) (value : String) :
    ofTrimmed (spell hyphens name value).toList = .assignment name value := by
  have hhead : (name.toList ++ '=' :: value.toList).head? ≠ some '-' := by
    cases hname : name.toList with
    | nil => simp
    | cons c cs => simpa [hname] using h.hyphen
  have hmem := equals_mem_spell hyphens name value
  rw [ofTrimmed, if_neg fun hnone => hnone.1 hmem, toList_spell, dropWhile_hyphens hyphens hhead,
    splitAssignment?_of_spelled h.equals]

/-- A text with an equals sign is a spelled assignment. -/
theorem exists_spell (h : '=' ∈ cs) :
    ∃ hyphens name value, IsName name ∧ cs = (spell hyphens name value).toList := by
  obtain ⟨hyphens, rest, rfl, hrest⟩ := exists_hyphens cs
  have hmem : '=' ∈ rest := by simpa using h
  obtain ⟨name, value, rfl, hequals⟩ := exists_eq_append_equals hmem
  refine ⟨hyphens, name, value, ⟨hequals, ?_⟩, (toList_spell hyphens name value).symm⟩
  intro hhead
  exact hrest (by rw [List.head?_append, hhead]; rfl)

theorem ofTrimmed_bare (hequals : '=' ∉ cs) (hhyphen : '-' ∉ cs) :
    ofTrimmed cs = .bare (String.ofList cs) := by
  rw [ofTrimmed, if_pos ⟨hequals, hhyphen⟩]

theorem ofTrimmed_malformed (hequals : '=' ∉ cs) (hhyphen : '-' ∈ cs) :
    ofTrimmed cs = .malformed (String.ofList cs) := by
  have hrest : '=' ∉ cs.dropWhile (· = '-') :=
    fun hmem => hequals ((List.dropWhile_sublist _).subset hmem)
  rw [ofTrimmed, if_neg fun hnone => hnone.2 hhyphen, splitAssignment?_eq_none hrest]

/-- The trimmed token spells the argument. -/
inductive Spells : List Char → Argument → Prop
  | bare {cs : List Char} (hequals : '=' ∉ cs) (hhyphen : '-' ∉ cs) :
      Spells cs (.bare (String.ofList cs))
  | malformed {cs : List Char} (hequals : '=' ∉ cs) (hhyphen : '-' ∈ cs) :
      Spells cs (.malformed (String.ofList cs))
  | assignment {name : String} (h : IsName name) (hyphens : Nat) (value : String) :
      Spells (spell hyphens name value).toList (.assignment name value)

theorem spells_bare_iff {token : String} :
    Spells cs (.bare token) ↔ token = String.ofList cs ∧ '-' ∉ cs ∧ '=' ∉ cs := by
  constructor
  · intro h
    cases h with
    | bare hequals hhyphen => exact ⟨rfl, hhyphen, hequals⟩
  · rintro ⟨rfl, hhyphen, hequals⟩
    exact .bare hequals hhyphen

theorem spells_malformed_iff {token : String} :
    Spells cs (.malformed token) ↔ token = String.ofList cs ∧ '-' ∈ cs ∧ '=' ∉ cs := by
  constructor
  · intro h
    cases h with
    | malformed hequals hhyphen => exact ⟨rfl, hhyphen, hequals⟩
  · rintro ⟨rfl, hhyphen, hequals⟩
    exact .malformed hequals hhyphen

theorem spells_assignment_iff : Spells cs (.assignment name value) ↔
    IsName name ∧ ∃ hyphens, cs = (spell hyphens name value).toList := by
  constructor
  · intro h
    cases h with
    | assignment hname hyphens => exact ⟨hname, hyphens, rfl⟩
  · rintro ⟨h, hyphens, rfl⟩
    exact .assignment h hyphens value

/-- A trimmed token is read as the argument that it spells. -/
theorem ofTrimmed_eq_iff {argument : Argument} : ofTrimmed cs = argument ↔ Spells cs argument := by
  constructor
  · rintro rfl
    by_cases hequals : '=' ∈ cs
    · obtain ⟨hyphens, name, value, hname, rfl⟩ := exists_spell hequals
      rw [ofTrimmed_spell hname]
      exact .assignment hname hyphens value
    · by_cases hhyphen : '-' ∈ cs
      · rw [ofTrimmed_malformed hequals hhyphen]
        exact .malformed hequals hhyphen
      · rw [ofTrimmed_bare hequals hhyphen]
        exact .bare hequals hhyphen
  · intro h
    cases h with
    | bare hequals hhyphen => exact ofTrimmed_bare hequals hhyphen
    | malformed hequals hhyphen => exact ofTrimmed_malformed hequals hhyphen
    | assignment h hyphens value => exact ofTrimmed_spell h hyphens value

/-- An assignment is spelled in one way. -/
theorem spell_injective {hyphens' : Nat} {name' value' : String} (h : IsName name)
    (h' : IsName name') (heq : spell hyphens name value = spell hyphens' name' value') :
    hyphens = hyphens' ∧ name = name' ∧ value = value' := by
  -- both texts are read, which gives the name and the value; then the lengths leave the hyphens
  have hread := ofTrimmed_spell h hyphens value
  rw [heq, ofTrimmed_spell h' hyphens' value', assignment.injEq] at hread
  obtain ⟨rfl, rfl⟩ := hread
  have hlength := congrArg (fun s => s.toList.length) heq
  simp [toList_spell] at hlength
  exact ⟨hlength, rfl, rfl⟩

/-! ### Tokens -/

theorem classify_eq_iff {raw : String} {argument : Argument} :
    classify raw = argument ↔ Spells (Text.trim raw).toList argument := by
  rw [classify, ofTrimmed_eq_iff, Text.toList_trim]

/-- A token is an assignment if it contains an equals sign, else malformed if it contains a hyphen,
and else bare; malformed and bare tokens are kept but for their outer white space. The name and the
value of an assignment are those that the trimmed token spells, after some number of hyphens; no
token spells two, and every spelling is read back, with any blanks around it. -/
theorem classify_lossless :
    (∀ raw, (∃ name value, classify raw = .assignment name value) ↔
      '=' ∈ (Text.trim raw).toList) ∧
    (∀ raw token, classify raw = .malformed token ↔
      token = Text.trim raw ∧ '-' ∈ (Text.trim raw).toList ∧ '=' ∉ (Text.trim raw).toList) ∧
    (∀ raw token, classify raw = .bare token ↔
      token = Text.trim raw ∧ '-' ∉ (Text.trim raw).toList ∧ '=' ∉ (Text.trim raw).toList) ∧
    (∀ raw name value, classify raw = .assignment name value ↔
      IsName name ∧ ∃ hyphens, Text.trim raw = spell hyphens name value) ∧
    (∀ hyphens hyphens' name name' value value', IsName name → IsName name' →
      spell hyphens name value = spell hyphens' name' value' →
      hyphens = hyphens' ∧ name = name' ∧ value = value') ∧
    (∀ hyphens name value before after, IsName name →
      Text.Trimmed (spell hyphens name value).toList →
      Text.AllBlank before.toList → Text.AllBlank after.toList →
      classify (before ++ spell hyphens name value ++ after) = .assignment name value) := by
  refine ⟨?_, ?_, ?_, ?_, ?_, ?_⟩
  · intro raw
    constructor
    · rintro ⟨name, value, h⟩
      obtain ⟨-, hyphens, htext⟩ := spells_assignment_iff.mp (classify_eq_iff.mp h)
      rw [htext]
      exact equals_mem_spell hyphens name value
    · intro hmem
      obtain ⟨hyphens, name, value, hname, htext⟩ := exists_spell hmem
      exact ⟨name, value,
        classify_eq_iff.mpr (spells_assignment_iff.mpr ⟨hname, hyphens, htext⟩)⟩
  · intro raw token
    rw [classify_eq_iff, spells_malformed_iff, String.ofList_toList]
  · intro raw token
    rw [classify_eq_iff, spells_bare_iff, String.ofList_toList]
  · intro raw name value
    simp only [classify_eq_iff, spells_assignment_iff, String.toList_inj]
  · intro hyphens hyphens' name name' value value' h h' heq
    exact spell_injective h h' heq
  · intro hyphens name value before after h htrimmed hbefore hafter
    rw [classify, String.toList_append, String.toList_append,
      Text.trimChars_append htrimmed hbefore hafter, ofTrimmed_spell h]

/-- A value with hyphens and equals signs, between two sorts of blanks. -/
theorem classify_lossless_sample :
    IsName "a.b" ∧ Text.Trimmed (spell 2 "a.b" "x=-1").toList ∧
      classify ("\u3000 " ++ spell 2 "a.b" "x=-1" ++ "\t") = .assignment "a.b" "x=-1" ∧
      (∀ hyphens name value, IsName name → spell 2 "a.b" "x=-1" = spell hyphens name value →
        2 = hyphens ∧ "a.b" = name ∧ "x=-1" = value) := by
  have hname : IsName "a.b" := ⟨by decide, by decide⟩
  have htrimmed : Text.Trimmed (spell 2 "a.b" "x=-1").toList := by decide
  have hbefore : Text.AllBlank "\u3000 ".toList := by decide
  have hafter : Text.AllBlank "\t".toList := by decide
  obtain ⟨-, -, -, -, hunique, hread⟩ := classify_lossless
  exact ⟨hname, htrimmed, hread 2 _ _ _ _ hname htrimmed hbefore hafter,
    fun hyphens name value h heq => hunique _ _ _ _ _ _ hname h heq⟩

end ConfigLayers.Argument
