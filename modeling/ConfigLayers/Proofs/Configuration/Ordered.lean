import ConfigLayers.Proofs.Configuration.Precedence
import ConfigLayers.Proofs.Overlay.Run
import ConfigLayers.Proofs.Tree.Ordered

/-!
# Loaded trees are ordered

The documents are ordered, and neither resolving modules nor overlaying a command line changes this:
every step of either puts an ordered node in an ordered tree, or leaves the tree as it is.
-/

namespace ConfigLayers

/-! ### Modules -/

namespace Modules

variable {files : FileSystem} {dir : String} {t modules : Tree}

theorem ordered_place (h : modules.Ordered) (r : Reference) :
    (r.place files dir modules).Ordered := by
  rw [Reference.place]
  split
  · next document hload => exact h.insert r.name (Document.ordered_of_load hload)
  · exact h

theorem ordered_foldl_place (h : modules.Ordered) (refs : List Reference) :
    (refs.foldl (Reference.place files dir) modules).Ordered := by
  induction refs generalizing modules with
  | nil => exact h
  | cons r refs ih => exact ih (ordered_place h r)

theorem ordered_resolve (files : FileSystem) (dir : String) (ht : t.Ordered) :
    (resolve files dir t).value.1.Ordered := by
  rw [resolve]
  split
  · exact ht
  · next modules hget =>
    have hmodules : modules.Ordered := ht.of_get? hget
    exact ht.insert modulesKey (ordered_foldl_place hmodules _)
  · exact ht

end Modules

/-! ### The command line -/

namespace Overlay

variable {t : Tree}

theorem ordered_start (h : t.Ordered) : (start t).Ordered := h.insert defaultKey trivial

theorem ordered_step (h : t.Ordered) (a : Argument) : (step t a).1.Ordered := by
  cases a with
  | bare token =>
    rcases step_bare t token with ⟨items, hget, hstep⟩ | ⟨-, hstep⟩
    · have hlist : (Node.list items).Ordered := h.of_get? hget
      rw [hstep]
      exact h.insert defaultKey (Node.itemsOrdered_concat hlist trivial)
    · rw [hstep]
      exact h
  | assignment name value =>
    have hvalue : (Node.string value).Ordered := trivial
    rw [step_assignment_eq]
    exact h.tree_setInPlace hvalue (Path.keys name)
  | malformed token => exact h

theorem ordered_run (h : t.Ordered) (as : List Argument) : (run t as).1.Ordered := by
  induction as generalizing t with
  | nil => exact h
  | cons a as ih => exact ih (ordered_step h a)

end Overlay

/-! ### Loads -/

namespace Configuration

variable {files : FileSystem} {c : Configuration} {base t : Tree}

/-- The base tree is ordered, also when there is no document. -/
theorem ordered_of_base (h : c.base files = .ok base) : base.Ordered := by
  cases hmemory : c.options.inMemory with
  | false => exact ordered_base hmemory h
  | true =>
    rw [Configuration.base, hmemory] at h
    rw [← Except.ok.inj h]
    exact Tree.ordered_empty

theorem ordered_resolved (h : c.base files = .ok base) : (c.resolved files base).Ordered := by
  rw [resolved, resolveModules]
  split
  · exact ordered_of_base h
  · exact Modules.ordered_resolve files c.confDir (ordered_of_base h)

theorem ordered_overlaid (h : c.base files = .ok base) : (c.overlaid files base).1.Ordered := by
  have hstart := Overlay.ordered_start (ordered_resolved h)
  exact Overlay.ordered_run hstart (Overlay.tokens c.args)

/-- The tree that a load publishes is ordered. -/
theorem ordered_of_load (h : (c.load files).value.2.snapshot? = some t) : t.Ordered := by
  cases hbase : c.base files with
  | ok base =>
    rw [value_load_of_ok hbase, Option.some.injEq] at h
    exact h ▸ ordered_overlaid hbase
  | error error =>
    rw [value_load_of_error hbase] at h
    exact absurd h (by simp)

end Configuration

end ConfigLayers
