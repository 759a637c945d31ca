import ConfigLayers.Proofs.Path.Components
import ConfigLayers.Path.Program

/-!
# The path of a program

The directory and the script of a program are its path again: the components of the directory and
then the name of the script. A path that does not end with a name has the script `__main__`, and a
path with nothing before its end has the directory `.`.
-/

namespace ConfigLayers

open ConfigLayers.Path (components parts Component)

variable {program : Option String}

namespace ProgramLocation

/-! ### The directory -/

theorem dir_of_parent?_none (h : Path.parent? (program.getD "") = none) :
    (ofProgram program).dir = "." := by
  simp only [ofProgram, h]

theorem dir_of_parent?_empty (h : Path.parent? (program.getD "") = some "") :
    (ofProgram program).dir = "." := by
  simp only [ofProgram, h]

theorem dir_of_parent? {parent : String} (h : Path.parent? (program.getD "") = some parent)
    (hne : parent ≠ "") : (ofProgram program).dir = parent := by
  simp only [ofProgram, h]

/-- The directory has the components before the last one. Where there are none it is `.`. -/
theorem dir_ofProgram (program : Option String) :
    ((components (program.getD "")).dropLast = [] → (ofProgram program).dir = ".") ∧
      ((components (program.getD "")).dropLast ≠ [] →
        components (ofProgram program).dir = (components (program.getD "")).dropLast) := by
  rcases List.eq_nil_or_concat' (components (program.getD "")) with h | ⟨before, last, h⟩
  · refine ⟨fun _ => dir_of_parent?_none (Path.parent?_of_components_nil h), ?_⟩
    intro hne
    exact absurd (by rw [h]; rfl) hne
  · rw [h, List.dropLast_concat]
    rcases List.eq_nil_or_concat' before with rfl | ⟨before, middle, rfl⟩
    · refine ⟨fun _ => ?_, fun hne => absurd rfl hne⟩
      rw [List.nil_append] at h
      by_cases hroot : last = .root
      · rw [hroot] at h
        exact dir_of_parent?_none (Path.parent?_of_components_root h)
      · exact dir_of_parent?_empty (Path.parent?_of_components_singleton h hroot)
    · refine ⟨fun hnil => absurd hnil (by simp), fun _ => ?_⟩
      rw [List.append_assoc, List.singleton_append] at h
      obtain ⟨parent, hparent, hcomponents⟩ := Path.exists_parent?_eq_some h
      have hne : parent ≠ "" := by
        rintro rfl
        rw [Path.components_empty] at hcomponents
        exact absurd hcomponents (by simp)
      rw [dir_of_parent? hparent hne, hcomponents]

theorem dir_ne_empty (program : Option String) : (ofProgram program).dir ≠ "" := by
  obtain ⟨hnone, hsome⟩ := dir_ofProgram program
  by_cases h : (components (program.getD "")).dropLast = []
  · rw [hnone h]
    decide
  · intro hempty
    have hcomponents := hsome h
    rw [hempty] at hcomponents
    exact h hcomponents.symm

/-! ### The script -/

/-- The script is the last component, if this is a name. -/
theorem script_ofProgram (program : Option String) :
    (ofProgram program).script = match (components (program.getD "")).getLast? with
      | some (.name chars) => String.ofList chars
      | _ => "__main__" := by
  have hscript : (ofProgram program).script =
      (Path.fileName? (program.getD "")).getD "__main__" := rfl
  rw [hscript, Path.fileName?]
  match (components (program.getD "")).getLast? with
  | none | some .root | some .here | some .up => rfl
  | some (.name chars) => rfl

theorem slash_notMem_script (program : Option String) :
    '/' ∉ (ofProgram program).script.toList := by
  rw [script_ofProgram]
  split
  · next chars h =>
    rw [String.toList_ofList]
    exact Path.slash_notMem_of_name_mem (List.mem_of_mem_getLast? h)
  · decide

/-- The directory is never empty and the script has no slash. The components of the directory are
all components of the path but the last one, or the directory is `.` if there are none, and the
script is the last component if this is a name, and otherwise `__main__`. -/
theorem ofProgram_reconstructs (program : Option String) :
    let path := program.getD ""
    let location := ofProgram program
    location.dir ≠ "" ∧ '/' ∉ location.script.toList ∧
      (if (parts path).dropLast = [] then location.dir = "."
        else parts location.dir = (parts path).dropLast) ∧
      location.script = match (parts path).getLast? with
        | some (.name chars) => String.ofList chars
        | _ => "__main__" := by
  intro path location
  refine ⟨dir_ne_empty program, slash_notMem_script program, ?_, ?_⟩
  · obtain ⟨hnone, hsome⟩ := dir_ofProgram program
    simp only [← Path.components_eq_parts]
    split
    · next h => exact hnone h
    · next h => exact hsome h
  · rw [← Path.components_eq_parts]
    exact script_ofProgram program

example : ofProgram (some "/opt//./tool/../bin/x/.") = ⟨"/opt//./tool/../bin", "x"⟩ := by decide

example : ofProgram (some "./..") = ⟨".", "__main__"⟩ := by decide

end ProgramLocation

end ConfigLayers
