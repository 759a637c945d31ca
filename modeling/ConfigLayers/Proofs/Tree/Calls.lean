import ConfigLayers.Proofs.Tree.Writes

/-!
# Many writes

A key never changes between tree and leaf through a write. What a way leads to is bound after the
write as well, and of the same sort, unless the write replaced a whole tree above it. The same holds
of any number of calls, of which some may fail.
-/

namespace ConfigLayers.Tree

/-! ### Sorts of nodes -/

section Sorts

variable {t t' t'' : Tree} {node : Node} {way : List String}

/-- What the way leads to in `t`, a tree or a leaf, is in `t'` a tree or a leaf again. -/
def KeepsSort (t t' : Tree) (way : List String) : Prop :=
  ∀ old, t.find? way = some old → ∃ new, t'.find? way = some new ∧ new.isTree = old.isTree

theorem keepsSort_refl (t : Tree) (way : List String) : KeepsSort t t way := by
  intro old hold
  exact ⟨old, hold, rfl⟩

theorem KeepsSort.trans (h : KeepsSort t t' way) (h' : KeepsSort t' t'' way) :
    KeepsSort t t'' way := by
  intro old hold
  obtain ⟨mid, hmid, hsort⟩ := h old hold
  obtain ⟨new, hnew, hsort'⟩ := h' mid hmid
  exact ⟨new, hnew, hsort'.trans hsort⟩

/-- What is bound at one key of the root does not matter to the ways from other keys. -/
theorem keepsSort_insert_of_ne {key other : String} (h : key ≠ other) (t : Tree) (node : Node)
    (rest : List String) : KeepsSort t (t.insert other node) (key :: rest) := by
  intro old hold
  refine ⟨old, ?_, rfl⟩
  rw [find?_insert_of_ne h, hold]

/-- A write keeps the sort of what every way leads to, but for those below a new tree. -/
theorem keepsSort_setInPlace {segments : List String}
    (h : (t.setInPlace segments node).result = .ok () → node.isTree = true →
      ¬ Path.Above segments way) :
    KeepsSort t (t.setInPlace segments node).tree way := by
  cases hresult : (t.setInPlace segments node).result with
  | error error =>
    rw [tree_setInPlace_of_error hresult]
    exact keepsSort_refl t way
  | ok done =>
    obtain ⟨hne, -, hopen⟩ := setInPlace_result_eq_ok_iff.mp hresult
    intro old hold
    rcases Path.compare segments way with rfl | hbelow | habove | hparted
    · -- the end of the segments itself
      have hnew := find?_setInPlace_append hresult []
      rw [List.append_nil, Node.at?_nil] at hnew
      exact ⟨node, hnew, (hopen.last old hold).symm⟩
    · -- a way from there on: bound below a tree, which only a tree can replace
      obtain ⟨sub, hsub⟩ := exists_tree_of_find?_above hne hbelow hold
      have htree := hopen.last _ hsub
      rw [Node.isTree_tree] at htree
      exact absurd hbelow (h hresult htree.symm)
    · -- a beginning of the segments: the write leads through it
      have hway : way ≠ [] := by
        rintro rfl
        exact absurd hold (by simp)
      obtain ⟨sub, hsub⟩ := find?_setInPlace_above hresult hway habove
      exact ⟨.tree sub, hsub, (hopen.above way old habove hold).symm⟩
    · exact ⟨old, by rw [find?_setInPlace_parted hresult hparted, hold], rfl⟩

end Sorts

/-! ### Calls -/

/-- A call that writes to a tree. -/
inductive Call where
  | set (segments : List String) (node : Node)
  | setPath (path : String) (node : Node)
  | assign (key : String) (node : Node)

namespace Call

/-- The way at whose end the call writes. -/
def way : Call → List String
  | set segments _ => segments
  | setPath path _ => Path.keys path
  | assign key _ => [key]

/-- The node that the call writes. -/
def node : Call → Node
  | set _ node | setPath _ node | assign _ node => node

/-- Makes the call, in place. -/
def perform (t : Tree) : Call → Written
  | set segments node => t.setInPlace segments node
  | setPath path node => t.setInPlace (Path.keys path) node
  | assign key node => t.assignInPlace key node

theorem perform_eq_setInPlace (t : Tree) (call : Call) :
    call.perform t = t.setInPlace call.way call.node := by
  cases call with
  | set segments node => rfl
  | setPath path node => rfl
  | assign key node => exact assignInPlace_eq_setInPlace t key node

end Call

/-- The tree after calls, one after the other. A call that fails does not stop those after it. -/
def after (t : Tree) : List Call → Tree
  | [] => t
  | call :: calls => (call.perform t).tree.after calls

theorem after_append (t : Tree) (calls calls' : List Call) :
    t.after (calls ++ calls') = (t.after calls).after calls' := by
  induction calls generalizing t with
  | nil => rfl
  | cons call calls ih => exact ih (call.perform t).tree

/-- Those of the calls, one after the other, that succeed. -/
def succeeded (t : Tree) : List Call → List Call
  | [] => []
  | call :: calls =>
    match call.perform t with
    | ⟨.ok (), t⟩ => call :: t.succeeded calls
    | ⟨.error _, t⟩ => t.succeeded calls

theorem mem_succeeded_cons {t : Tree} {call other : Call} {calls : List Call} :
    other ∈ t.succeeded (call :: calls) ↔
      ((call.perform t).result = .ok () ∧ other = call) ∨
        other ∈ (call.perform t).tree.succeeded calls := by
  rw [succeeded]
  obtain ⟨_ | _, left⟩ := call.perform t <;> simp

/-- Calls keep the sort of what a way leads to, unless one that succeeds writes a tree above it. -/
theorem keepsSort_after {t : Tree} {way : List String} {calls : List Call}
    (h : ∀ call ∈ t.succeeded calls, call.node.isTree = true → ¬ Path.Above call.way way) :
    KeepsSort t (t.after calls) way := by
  induction calls generalizing t with
  | nil => exact keepsSort_refl t way
  | cons call calls ih =>
    have hcall : KeepsSort t (call.perform t).tree way := by
      rw [call.perform_eq_setInPlace]
      apply keepsSort_setInPlace
      intro hok
      rw [← call.perform_eq_setInPlace] at hok
      exact h call (mem_succeeded_cons.mpr (.inl ⟨hok, rfl⟩))
    have hcalls : KeepsSort (call.perform t).tree ((call.perform t).tree.after calls) way := by
      apply ih
      intro other hother
      exact h other (mem_succeeded_cons.mpr (.inr hother))
    exact hcall.trans hcalls

end ConfigLayers.Tree
