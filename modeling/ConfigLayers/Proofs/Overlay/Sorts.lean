import ConfigLayers.Proofs.Tree.Calls
import ConfigLayers.Proofs.Overlay.Run

/-!
# Trees stay trees and leaves stay leaves

The one structural rule of trees over whole runs: of writes in any order, and of the tokens of a
command line, which write nothing but strings and touch no other root key than `default` without
asking for the rule.
-/

namespace ConfigLayers.Overlay

variable {key : String} (hkey : key ≠ defaultKey) (rest : List String)

include hkey in
/-- A token keeps the sort of what the ways from other keys than `default` lead to. -/
theorem keepsSort_step (t : Tree) (a : Argument) :
    Tree.KeepsSort t (step t a).1 (key :: rest) := by
  cases a with
  | bare token =>
    rcases step_bare t token with ⟨items, -, hstep⟩ | ⟨-, hstep⟩
    · rw [hstep]
      exact Tree.keepsSort_insert_of_ne hkey t _ rest
    · rw [hstep]
      exact Tree.keepsSort_refl t _
  | assignment name value =>
    rcases step_assignment t name value with ⟨-, hstep⟩ | ⟨error, -, hstep⟩
    · rw [hstep, assign_eq_write]
      apply Tree.keepsSort_setInPlace
      intro _ htree
      exact absurd htree (by simp [Node.isTree])
    · rw [hstep]
      exact Tree.keepsSort_refl t _
  | malformed token => exact Tree.keepsSort_refl t _

include hkey in
/-- So does every run. -/
theorem keepsSort_run (t : Tree) (as : List Argument) :
    Tree.KeepsSort t (run t as).1 (key :: rest) := by
  induction as generalizing t with
  | nil => exact Tree.keepsSort_refl t _
  | cons a as ih => exact (keepsSort_step hkey rest t a).trans (ih (step t a).1)

/-- Of what is bound nothing becomes unbound, no tree becomes a leaf and no leaf a tree. Calls that
write to a tree keep to this at every way that no successful one of them writes a tree above.
Overlaying a command line keeps to it at every way from another root key than `default`. -/
theorem sorts_kept :
    (∀ (t : Tree) (calls : List Tree.Call) (way : List String) (old : Node),
      t.find? way = some old →
      (∀ call ∈ t.succeeded calls, call.node.isTree = true → ¬ Path.Above call.way way) →
      ∃ new, (t.after calls).find? way = some new ∧ new.isTree = old.isTree) ∧
    (∀ (t : Tree) (args : List String) (key : String) (rest : List String) (old : Node),
      key ≠ defaultKey → t.find? (key :: rest) = some old →
      ∃ new, (apply args t).value.1.find? (key :: rest) = some new ∧
        new.isTree = old.isTree) := by
  refine ⟨?_, ?_⟩
  · intro t calls way old hold hcalls
    exact Tree.keepsSort_after hcalls old hold
  · intro t args key rest old hkey hold
    -- the list of bare tokens is put in without a look at what `default` is bound to
    have hstart : Tree.KeepsSort t (start t) (key :: rest) :=
      Tree.keepsSort_insert_of_ne hkey t _ rest
    exact hstart.trans (keepsSort_run hkey rest (start t) (tokens args)) old hold

/-- A leaf does not take the place of a tree, and a tree put in elsewhere does not matter. -/
theorem sorts_kept_sample :
    let t : Tree := .ofEntries [("a", .tree (.ofEntries [("b", .string "x")])), ("c", .null)]
    (∃ new, (t.after [.assign "a" (.string "y"), .set ["d"] (.tree .empty),
      .set ["c"] (.tree .empty), .setPath "a.b" (.string "z")]).find? ["a", "b"] = some new ∧
      new.isTree = false) ∧
    (∃ new, (apply ["prog", "--a=1", "--a.b.c=2", "default"] t).value.1.find? ["a"] = some new ∧
      new.isTree = true) := by
  intro t
  obtain ⟨hcalls, hargs⟩ := sorts_kept
  refine ⟨hcalls t _ ["a", "b"] (.string "x") rfl ?_, hargs t _ "a" [] _ (by decide) rfl⟩
  intro call hcall htree habove
  -- two calls succeed, and only the first of them writes a tree
  have hsucceeded : call ∈ [Tree.Call.set ["d"] (.tree .empty), .setPath "a.b" (.string "z")] :=
    hcall
  rcases List.mem_cons.mp hsucceeded with rfl | hlast
  · exact absurd (Path.above_cons_cons.mp habove).1 (by decide)
  · rw [List.mem_singleton.mp hlast] at htree
    exact absurd htree (by decide)

end ConfigLayers.Overlay
