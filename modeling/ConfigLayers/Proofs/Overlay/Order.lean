import Mathlib.Logic.Relation
import ConfigLayers.Proofs.Tree.Order
import ConfigLayers.Proofs.Tree.Refusals
import ConfigLayers.Proofs.Overlay.Run

/-!
# The order of tokens

Tokens that have nothing to do with each other may change places. Each of two neighbours then
becomes what it would have become alone, also if it is refused, and together they leave the same
tree. So the same tree comes out of a whole vector when any number of such neighbours change places,
and the same outcomes in another order.
-/

namespace ConfigLayers.Overlay

/-- Two tokens whose order does not matter. -/
inductive Independent : Argument → Argument → Prop
  | malformedLeft (token : String) (b : Argument) : Independent (.malformed token) b
  | malformedRight (a : Argument) (token : String) : Independent a (.malformed token)
  | assignments {name name' : String} (value value' : String) (hne : name ≠ name')
      (habove : ¬ Path.Above (Path.keys name) (Path.keys name'))
      (hbelow : ¬ Path.Above (Path.keys name') (Path.keys name)) :
      Independent (.assignment name value) (.assignment name' value')
  | bareLeft {name : String} (token value : String) (hne : name ≠ defaultKey) :
      Independent (.bare token) (.assignment name value)
  | bareRight {name : String} (value token : String) (hne : name ≠ defaultKey) :
      Independent (.assignment name value) (.bare token)

/-! ### Two neighbours -/

/-- From `t` on the two tokens lead to one tree in both orders, and to the same outcomes. -/
structure Commute (t : Tree) (a b : Argument) : Prop where
  tree : (step (step t a).1 b).1 = (step (step t b).1 a).1
  left : (step (step t b).1 a).2 = (step t a).2
  right : (step (step t a).1 b).2 = (step t b).2

theorem Commute.symm {t : Tree} {a b : Argument} (h : Commute t a b) : Commute t b a :=
  ⟨h.tree.symm, h.right, h.left⟩

theorem commute_malformed (t : Tree) (a : Argument) (token : String) :
    Commute t a (.malformed token) :=
  ⟨rfl, rfl, rfl⟩

/-- Writes at ways that part do not see each other. -/
theorem commute_assignments (t : Tree) {name name' : String} (value value' : String)
    (h : Path.Parted (Path.keys name) (Path.keys name')) :
    Commute t (.assignment name value) (.assignment name' value') := by
  have hcomm := Tree.setInPlace_setInPlace_of_parted t (.string value) (.string value') h
  have hcomm' := Tree.setInPlace_setInPlace_of_parted t (.string value') (.string value) h.symm
  constructor <;> simp only [step_assignment_eq]
  · rw [hcomm]
  · rw [hcomm']
  · rw [hcomm]

/-- Where another name than `default` lies: below `default`, or apart from it. -/
theorem compare_defaultKey {name : String} (h : name ≠ defaultKey) :
    Path.Above (Path.keys defaultKey) (Path.keys name) ∨
      Path.Parted (Path.keys defaultKey) (Path.keys name) := by
  rcases Path.compare (Path.keys defaultKey) (Path.keys name) with heq | habove | hbelow | hparted
  · exact absurd (Path.keys_injective heq).symm h
  · exact .inl habove
  · exact absurd hbelow (not_above_defaultKey name)
  · exact .inr hparted

/-- Below the list of bare tokens every assignment is refused, whatever the list holds. -/
theorem exists_refused_below_list {name : String} (node : Node)
    (h : Path.Above (Path.keys defaultKey) (Path.keys name)) :
    ∃ error, ∀ (t : Tree) (items : List Node), t.get? defaultKey = some (.list items) →
      t.setInPlace (Path.keys name) node = ⟨.error error, t⟩ := by
  rcases Tree.setInPlace_cases (Path.keys name) node with
    ⟨error, hrefused⟩ | ⟨key, rest, hkeys, hwalk⟩
  · exact ⟨error, fun t items _ => hrefused t⟩
  · refine ⟨.kindConflict (Path.dotted (Path.keys defaultKey)) .list .tree, ?_⟩
    intro t items hget
    have hlist : t.find? (Path.keys defaultKey) = some (.list items) := by
      rw [find?_defaultKey, hget]
    have hresult : (t.setInPlace (Path.keys name) node).result =
        .error (.kindConflict (Path.dotted (Path.keys defaultKey)) .list .tree) := by
      rw [hkeys] at h
      rw [hwalk, Tree.write_result_of_leaf h hlist rfl]
      rfl
    have htree := Tree.tree_setInPlace_of_error hresult
    rw [← hresult]
    exact congrArg (Tree.Written.mk _) htree

/-- No assignment to another name than `default` makes `default` a list. -/
theorem no_list_of_assignment {t : Tree} {name : String} (node : Node) (hne : name ≠ defaultKey)
    (h : ∀ items, t.get? defaultKey ≠ some (.list items)) (items : List Node) :
    (t.setInPlace (Path.keys name) node).tree.get? defaultKey ≠ some (.list items) := by
  rw [← find?_defaultKey]
  rcases compare_defaultKey hne with habove | hparted
  · cases hresult : (t.setInPlace (Path.keys name) node).result with
    | error error =>
      rw [Tree.tree_setInPlace_of_error hresult, find?_defaultKey]
      exact h items
    | ok done =>
      -- the write leads through `default`
      obtain ⟨sub, hsub⟩ :=
        Tree.find?_setInPlace_above hresult (Path.keys_ne_nil defaultKey) habove
      rw [hsub]
      simp
  · rw [Tree.find?_tree_setInPlace_of_parted hparted.symm, find?_defaultKey]
    exact h items

/-- A bare token and an assignment to another name than `default` do not see each other. -/
theorem commute_bare_assignment (t : Tree) (token : String) {name : String} (value : String)
    (hne : name ≠ defaultKey) : Commute t (.bare token) (.assignment name value) := by
  by_cases hlist : ∃ items, t.get? defaultKey = some (.list items)
  · obtain ⟨items, hget⟩ := hlist
    rcases compare_defaultKey hne with habove | hparted
    · -- the assignment is refused, before and after the token
      obtain ⟨error, hrefused⟩ := exists_refused_below_list (.string value) habove
      have hget' : (t.insert defaultKey (.list (items ++ [.string token]))).get? defaultKey =
          some (.list (items ++ [.string token])) := Tree.get?_insert_self t defaultKey _
      constructor <;>
        simp only [step_assignment_eq, step_bare_of_list hget, hrefused t items hget,
          hrefused _ _ hget']
    · -- the token is a write at `default`, from which the way of the assignment parts
      have hgrown := write_defaultKey hget (items ++ [.string token])
      have hget' : (t.setInPlace (Path.keys name) (.string value)).tree.get? defaultKey =
          some (.list items) := by
        rw [← find?_defaultKey, Tree.find?_tree_setInPlace_of_parted hparted.symm,
          find?_defaultKey, hget]
      have hgrown' := write_defaultKey hget' (items ++ [.string token])
      have hcomm := Tree.setInPlace_setInPlace_of_parted t (.list (items ++ [.string token]))
        (.string value) hparted
      rw [hgrown, hgrown'] at hcomm
      constructor <;>
        simp only [step_assignment_eq, step_bare_of_list hget, step_bare_of_list hget', hcomm]
  · have hnone : ∀ items, t.get? defaultKey ≠ some (.list items) :=
      fun items hget => hlist ⟨items, hget⟩
    have hnone' := no_list_of_assignment (.string value) hne hnone
    constructor <;>
      simp only [step_assignment_eq, step_bare_of_no_list hnone, step_bare_of_no_list hnone']

/-- Independent tokens commute in every tree. -/
theorem Independent.commute {a b : Argument} (h : Independent a b) (t : Tree) : Commute t a b := by
  cases h with
  | malformedLeft token b => exact (commute_malformed t b token).symm
  | malformedRight a token => exact commute_malformed t a token
  | @assignments name name' value value' hne habove hbelow =>
    apply commute_assignments
    rcases Path.compare (Path.keys name) (Path.keys name') with heq | h | h | hparted
    · exact absurd (Path.keys_injective heq) hne
    · exact absurd h habove
    · exact absurd h hbelow
    · exact hparted
  | bareLeft token value hne => exact commute_bare_assignment t token value hne
  | bareRight value token hne => exact (commute_bare_assignment t token value hne).symm

/-! ### Whole runs -/

/-- Two neighbours that commute change places in the middle of a run. -/
theorem run_exchange (t : Tree) (before after : List Argument) {a b : Argument}
    (h : ∀ t, Commute t a b) :
    (run t (before ++ b :: a :: after)).1 = (run t (before ++ a :: b :: after)).1 ∧
      (run t (before ++ b :: a :: after)).2.Perm (run t (before ++ a :: b :: after)).2 := by
  obtain ⟨htree, hleft, hright⟩ := h (run t before).1
  simp only [run_append, run_cons, htree, hleft, hright]
  refine ⟨trivial, ?_⟩
  apply List.Perm.append_left
  exact List.Perm.swap _ _ _

/-- Two neighbours in a list of tokens, independent of each other, change places. -/
inductive Exchange : List String → List String → Prop
  | neighbours (before after : List String) {x y : String}
      (h : Independent (Argument.classify x) (Argument.classify y)) :
      Exchange (before ++ x :: y :: after) (before ++ y :: x :: after)

/-- The tree does not show an exchange, nor do the outcomes show it except by their order. -/
theorem outcomes_of_exchange {raws raws' : List String} (h : Exchange raws raws')
    (program : String) (t : Tree) :
    (outcomes (program :: raws') t).1 = (outcomes (program :: raws) t).1 ∧
      (outcomes (program :: raws') t).2.Perm (outcomes (program :: raws) t).2 := by
  obtain ⟨before, after, h⟩ := h
  simp only [outcomes_eq_run, tokens_cons, List.map_append, List.map_cons]
  exact run_exchange (start t) _ _ h.commute

/-- Nor is any number of exchanges seen. -/
theorem outcomes_of_exchanges {raws raws' : List String}
    (h : Relation.ReflTransGen Exchange raws raws') (program : String) (t : Tree) :
    (outcomes (program :: raws') t).1 = (outcomes (program :: raws) t).1 ∧
      (outcomes (program :: raws') t).2.Perm (outcomes (program :: raws) t).2 := by
  induction h with
  | refl => exact ⟨rfl, List.Perm.refl _⟩
  | tail _ hlast ih =>
    obtain ⟨htree, hperm⟩ := outcomes_of_exchange hlast program t
    exact ⟨htree.trans ih.1, hperm.trans ih.2⟩

/-- When independent neighbours change places, any number of times, the tree is the same, as many
bare tokens are collected, and the same names are written, the same tokens dropped and the same
names refused with the same errors. -/
theorem apply_of_exchanges {raws raws' : List String}
    (h : Relation.ReflTransGen Exchange raws raws') (program : String) (t : Tree) :
    let this := (apply (program :: raws) t).value
    let that := (apply (program :: raws') t).value
    that.1 = this.1 ∧ that.2.defaults = this.2.defaults ∧
      that.2.assigned.Perm this.2.assigned ∧ that.2.dropped.Perm this.2.dropped ∧
      that.2.rejected.Perm this.2.rejected := by
  obtain ⟨htree, hperm⟩ := outcomes_of_exchanges h program t
  exact ⟨htree, hperm.countP_eq _, hperm.filterMap _, hperm.filterMap _, hperm.filterMap _⟩

/-- An assignment goes to the front, past another one in its branch and a bare token. The one that
is refused after both of them is refused in the same way. -/
theorem apply_of_exchanges_sample :
    let raws := ["run", "--a.b=1", "--a.c=2", "--a=3"]
    let raws' := ["--a.c=2", "run", "--a.b=1", "--a=3"]
    Relation.ReflTransGen Exchange raws raws' ∧
      (let this := (apply ("prog" :: raws) .empty).value
      let that := (apply ("prog" :: raws') .empty).value
      that.1 = this.1 ∧ that.2.defaults = this.2.defaults ∧
        that.2.assigned.Perm this.2.assigned ∧ that.2.dropped.Perm this.2.dropped ∧
        that.2.rejected.Perm this.2.rejected) ∧
      (apply ("prog" :: raws) .empty).value.2.assigned = ["a.b", "a.c"] ∧
      (apply ("prog" :: raws) .empty).value.2.rejected.map Prod.fst = ["a"] := by
  intro raws raws'
  have hb : Argument.classify "--a.b=1" = .assignment "a.b" "1" := by decide
  have hc : Argument.classify "--a.c=2" = .assignment "a.c" "2" := by decide
  have hrun : Argument.classify "run" = .bare "run" := by decide
  have hassignments : Independent (Argument.classify "--a.b=1") (Argument.classify "--a.c=2") := by
    rw [hb, hc]
    exact .assignments "1" "2" (by decide) (fun h => absurd h.1 (by decide))
      (fun h => absurd h.1 (by decide))
  have hbare : Independent (Argument.classify "run") (Argument.classify "--a.c=2") := by
    rw [hrun, hc]
    exact .bareLeft "run" "2" (by decide)
  have h : Relation.ReflTransGen Exchange raws raws' :=
    .tail (.tail .refl (.neighbours ["run"] ["--a=3"] hassignments))
      (.neighbours [] ["--a.b=1", "--a=3"] hbare)
  exact ⟨h, apply_of_exchanges h "prog" .empty, by decide +kernel, by decide +kernel⟩

end ConfigLayers.Overlay
