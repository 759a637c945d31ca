import ConfigLayers.Proofs.Tree.Writes
import ConfigLayers.Overlay.Apply

/-!
# What tokens do to a tree

One token changes the tree in at most one place: an assignment that succeeds writes its string, a
bare token that finds a list grows it, and every other token leaves the tree as it is. A run takes
its tokens one after the other, so that the report on a longer vector continues the one on a
shorter vector.
-/

namespace ConfigLayers.Overlay

/-! ### One token -/

/-- The names of one segment are no special case: every assignment is a write at the end of the
keys of its name. -/
theorem assign_eq_write (t : Tree) (name value : String) :
    assign t name value = t.setInPlace (Path.keys name) (.string value) := by
  rw [assign]
  split
  · next hlength =>
    obtain ⟨key, hkey⟩ := List.length_eq_one_iff.mp hlength
    have hname : name = key := by
      rw [← Path.dotted_keys name, hkey, Path.dotted_singleton]
    rw [Tree.assignInPlace_eq_setInPlace, hkey, hname]
  · rfl

theorem keys_defaultKey : Path.keys defaultKey = [defaultKey] := by decide

theorem find?_defaultKey (t : Tree) : t.find? (Path.keys defaultKey) = t.get? defaultKey := by
  rw [keys_defaultKey, Tree.find?_singleton]

/-- Nothing lies above a single key but the root, which no path leads to. -/
theorem not_above_defaultKey (q : String) : ¬ Path.Above (Path.keys q) (Path.keys defaultKey) := by
  rw [keys_defaultKey]
  cases hkeys : Path.keys q with
  | nil => exact absurd hkeys (Path.keys_ne_nil q)
  | cons key rest =>
    intro habove
    exact Path.not_above_nil rest (Path.above_cons_cons.mp habove).2

/-- Putting a list in place of a leaf at `default` is a write at the end of its path. -/
theorem write_defaultKey_of_leaf {t : Tree} {old : Node} (h : t.get? defaultKey = some old)
    (hleaf : old.isTree = false) (items : List Node) :
    t.setInPlace (Path.keys defaultKey) (.list items) =
      ⟨.ok (), t.insert defaultKey (.list items)⟩ := by
  have hmem : "" ∉ [defaultKey] := by decide
  have hkind : old.isTree = (Node.list items).isTree := hleaf
  rw [keys_defaultKey, Tree.setInPlace_cons t _ hmem, Tree.write, Tree.bind, h]
  exact if_pos hkind

theorem write_defaultKey {t : Tree} {items : List Node}
    (h : t.get? defaultKey = some (.list items)) (more : List Node) :
    t.setInPlace (Path.keys defaultKey) (.list more) =
      ⟨.ok (), t.insert defaultKey (.list more)⟩ :=
  write_defaultKey_of_leaf h rfl more

theorem step_malformed (t : Tree) (token : String) :
    step t (.malformed token) = (t, .malformed token) := rfl

/-- A bare token grows the list of bare tokens, or is lost where `default` is no list. -/
theorem step_bare (t : Tree) (token : String) :
    (∃ items, t.get? defaultKey = some (.list items) ∧
      step t (.bare token) =
        (t.insert defaultKey (.list (items ++ [.string token])), .collected token)) ∨
    ((∀ items, t.get? defaultKey ≠ some (.list items)) ∧
      step t (.bare token) = (t, .lost token)) := by
  rw [step, collect?]
  split
  · next t' heq =>
    split at heq
    · next items hget => exact .inl ⟨items, hget, by rw [← Option.some.inj heq]⟩
    · exact absurd heq (by simp)
  · next heq =>
    split at heq
    · exact absurd heq (by simp)
    · next hlist => exact .inr ⟨fun items hget => hlist items hget, rfl⟩

theorem step_bare_of_list {t : Tree} {items : List Node}
    (h : t.get? defaultKey = some (.list items)) (token : String) :
    step t (.bare token) =
      (t.insert defaultKey (.list (items ++ [.string token])), .collected token) := by
  rw [step, collect?, h]

theorem step_bare_of_no_list {t : Tree} (h : ∀ items, t.get? defaultKey ≠ some (.list items))
    (token : String) : step t (.bare token) = (t, .lost token) := by
  rcases step_bare t token with ⟨items, hget, -⟩ | ⟨-, hstep⟩
  · exact absurd hget (h items)
  · exact hstep

/-- An assignment is written, or refused and leaves the tree as it is. -/
theorem step_assignment (t : Tree) (name value : String) :
    ((assign t name value).result = .ok () ∧
      step t (.assignment name value) = ((assign t name value).tree, .assigned name value)) ∨
    (∃ error, (assign t name value).result = .error error ∧
      step t (.assignment name value) = (t, .rejected name value error)) := by
  cases hw : assign t name value with
  | mk result tree =>
    cases result with
    | ok _ => exact .inl ⟨rfl, by rw [step, hw]⟩
    | error error =>
      have hresult : (t.setInPlace (Path.keys name) (.string value)).result = .error error := by
        rw [← assign_eq_write, hw]
      have htree : tree = t := by
        have hleft := Tree.tree_setInPlace_of_error hresult
        rw [← assign_eq_write, hw] at hleft
        exact hleft
      exact .inr ⟨error, rfl, by rw [step, hw, htree]⟩

/-- What becomes of an assignment whose write ends with a result. -/
def Outcome.ofResult (name value : String) : Except Error Unit → Outcome
  | .ok () => .assigned name value
  | .error error => .rejected name value error

/-- An assignment is a write, whether it succeeds or not. -/
theorem step_assignment_eq (t : Tree) (name value : String) :
    step t (.assignment name value) =
      ((t.setInPlace (Path.keys name) (.string value)).tree,
        .ofResult name value (t.setInPlace (Path.keys name) (.string value)).result) := by
  rw [step, assign_eq_write]
  obtain ⟨_ | _, left⟩ := t.setInPlace (Path.keys name) (.string value) <;> rfl

/-! ### Runs -/

/-- What is picked from a list: that from its head, then that from the rest. -/
theorem filterMap_cons_toList {α β : Type} (f : α → Option β) (a : α) (as : List α) :
    (a :: as).filterMap f = (f a).toList ++ as.filterMap f := by
  rw [List.filterMap_cons]
  cases f a <;> rfl

@[simp] theorem run_nil (t : Tree) : run t [] = (t, []) := rfl

theorem run_cons (t : Tree) (a : Argument) (as : List Argument) :
    run t (a :: as) =
      ((run (step t a).1 as).1, (step t a).2 :: (run (step t a).1 as).2) := rfl

theorem run_append (t : Tree) (as bs : List Argument) :
    run t (as ++ bs) = ((run (run t as).1 bs).1, (run t as).2 ++ (run (run t as).1 bs).2) := by
  induction as generalizing t with
  | nil => rfl
  | cons a as ih => rw [List.cons_append, run_cons, ih, run_cons, List.cons_append]

/-- The tokens of a vector: what follows the program. -/
def tokens (args : List String) : List Argument := (args.drop 1).map Argument.classify

theorem outcomes_eq_run (args : List String) (t : Tree) :
    outcomes args t = run (start t) (tokens args) := rfl

theorem tokens_cons (program : String) (raws : List String) :
    tokens (program :: raws) = raws.map Argument.classify := rfl

/-! ### Reports -/

/-- The report on a run. -/
def report (args : List String) (t : Tree) : Report := (apply args t).value.2

theorem report_eq (args : List String) (t : Tree) :
    report args t = Outcome.report (outcomes args t).2 := rfl

theorem assigned_report (args : List String) (t : Tree) :
    (report args t).assigned = (outcomes args t).2.filterMap Outcome.assigned? := rfl

theorem rejected_report (args : List String) (t : Tree) :
    (report args t).rejected = (outcomes args t).2.filterMap Outcome.rejected? := rfl

/-- The outcomes on a longer vector continue those on a shorter one. -/
theorem outcomes_append (program : String) (before after : List String) (t : Tree) :
    (outcomes (program :: (before ++ after)) t).2 =
      (outcomes (program :: before) t).2 ++
        (run (outcomes (program :: before) t).1 (after.map Argument.classify)).2 := by
  rw [outcomes_eq_run, tokens_cons, List.map_append, run_append]
  rfl

/-- So do the names that were written and those that were refused. -/
theorem report_prefix (program : String) (before after : List String) (t : Tree) :
    (report (program :: before) t).assigned <+: (report (program :: (before ++ after)) t).assigned ∧
    (report (program :: before) t).rejected <+:
      (report (program :: (before ++ after)) t).rejected := by
  rw [assigned_report, assigned_report, rejected_report, rejected_report, outcomes_append,
    List.filterMap_append, List.filterMap_append]
  exact ⟨List.prefix_append _ _, List.prefix_append _ _⟩

/-- The outcome of a token is that of one step from where the tokens before it led. -/
theorem outcomes_concat (program : String) (before : List String) (raw : String) (t : Tree) :
    (outcomes (program :: (before ++ [raw])) t).2 =
      (outcomes (program :: before) t).2 ++
        [(step (outcomes (program :: before) t).1 (Argument.classify raw)).2] :=
  outcomes_append program before [raw] t

end ConfigLayers.Overlay
