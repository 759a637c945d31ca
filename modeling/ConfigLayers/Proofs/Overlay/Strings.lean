import ConfigLayers.Proofs.Overlay.Sorts

/-!
# What becomes of a string

A string stays a string through every run, at any way from another root key than `default`. An
assignment to its place is always accepted, so that the last one decides which string it is. No
other token changes it: a name above it is that of a tree, and a name below it is refused.
-/

namespace ConfigLayers

/-- The value that the argument assigns at the end of the way, if this can be written to. -/
def Argument.valueAt? (way : List String) : Argument → Option String
  | assignment name value => if Path.keys name = way ∧ "" ∉ way then some value else none
  | _ => none

namespace Overlay

variable {t : Tree} {key : String} {rest : List String} {s : String}

/-- An assignment writes to the place of a string, and nowhere else does it change the string. -/
theorem find?_assignment_of_string (name value : String)
    (h : t.find? (key :: rest) = some (.string s)) :
    (t.setInPlace (Path.keys name) (.string value)).tree.find? (key :: rest) =
      some (.string (((Argument.assignment name value).valueAt? (key :: rest)).getD s)) := by
  rw [Argument.valueAt?]
  split
  · next hplace =>
    obtain ⟨hkeys, hmem⟩ := hplace
    have hopen : Tree.Open t (key :: rest) (.string value) := by
      constructor
      · intro upper old habove hold
        have hne : upper ≠ [] := by
          rintro rfl
          exact absurd hold (by simp)
        obtain ⟨sub, hsub⟩ := Tree.exists_tree_of_find?_above hne habove h
        rw [hold, Option.some.injEq] at hsub
        rw [hsub, Node.isTree_tree]
      · intro old hold
        rw [h, Option.some.injEq] at hold
        rw [← hold]
        rfl
    have hok := Tree.setInPlace_result_eq_ok_iff.mpr ⟨List.cons_ne_nil key rest, hmem, hopen⟩
    have hend := Tree.find?_setInPlace_append hok []
    rw [List.append_nil, Node.at?_nil] at hend
    rw [hkeys, hend, Option.getD_some]
  · next hplace =>
    rw [Option.getD_none]
    cases hresult : (t.setInPlace (Path.keys name) (.string value)).result with
    | error error => rw [Tree.tree_setInPlace_of_error hresult, h]
    | ok done =>
      obtain ⟨hne, hmem, hopen⟩ := Tree.setInPlace_result_eq_ok_iff.mp hresult
      rcases Path.compare (Path.keys name) (key :: rest) with heq | habove | hbelow | hparted
      · exact absurd ⟨heq, heq ▸ hmem⟩ hplace
      · -- the name of a tree does not take a string
        obtain ⟨sub, hsub⟩ := Tree.exists_tree_of_find?_above hne habove h
        exact absurd (hopen.last _ hsub) (by simp [Node.isTree])
      · -- below a string nothing can be written
        exact absurd (hopen.above _ _ hbelow h) (by simp [Node.isTree])
      · rw [Tree.find?_setInPlace_parted hresult hparted, h]

variable (hkey : key ≠ defaultKey)

include hkey in
theorem find?_step_of_string (h : t.find? (key :: rest) = some (.string s)) (a : Argument) :
    (step t a).1.find? (key :: rest) =
      some (.string ((a.valueAt? (key :: rest)).getD s)) := by
  cases a with
  | bare token =>
    rcases step_bare t token with ⟨items, -, hstep⟩ | ⟨-, hstep⟩
    · rw [hstep, Tree.find?_insert_of_ne hkey, h]
      rfl
    · rw [hstep, h]
      rfl
  | assignment name value =>
    rw [step_assignment_eq]
    exact find?_assignment_of_string name value h
  | malformed token =>
    rw [step_malformed, h]
    rfl

include hkey in
/-- After a run the string is the value of the last assignment to its place, or still the same if
there is none. -/
theorem find?_run_of_string (h : t.find? (key :: rest) = some (.string s)) (as : List Argument) :
    (run t as).1.find? (key :: rest) =
      some (.string ((as.filterMap (Argument.valueAt? (key :: rest))).getLast?.getD s)) := by
  induction as generalizing t s with
  | nil => exact h
  | cons a as ih =>
    rw [run_cons, ih (find?_step_of_string hkey h a), filterMap_cons_toList, List.getLast?_append]
    cases (as.filterMap (Argument.valueAt? (key :: rest))).getLast? with
    | none => cases a.valueAt? (key :: rest) <;> rfl
    | some last => rfl

end Overlay

end ConfigLayers
