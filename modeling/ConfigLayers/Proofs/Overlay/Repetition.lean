import Mathlib.Data.List.Forall2
import ConfigLayers.Proofs.Overlay.Contents
import ConfigLayers.Proofs.Tree.Order

/-!
# Overlaying twice

The same tokens over their own result. The second run starts from another tree, but what the first
run accepted stands in the way of none of its names, and what it refused stays refused. So the two
runs agree token by token, and make the same writes. None of the places that they write lies above
another one, so that the second time the writes lead back to where the first time they led to.
-/

namespace ConfigLayers

namespace Overlay

/-! ### The writes of a run -/

/-- The write that a token makes in the tree, if it makes one. -/
def write? (t : Tree) : Argument → Option Tree.Call
  | .bare token =>
    match t.get? defaultKey with
    | some (.list items) => some (.setPath defaultKey (.list (items ++ [.string token])))
    | _ => none
  | .assignment name value =>
    match (assign t name value).result with
    | .ok () => some (.setPath name (.string value))
    | .error _ => none
  | .malformed _ => none

/-- The writes of a run, in order. -/
def made (t : Tree) : List Argument → List Tree.Call
  | [] => []
  | a :: as => (write? t a).toList ++ made (step t a).1 as

/-- A token changes the tree by its write. -/
theorem tree_step_eq_after (t : Tree) (a : Argument) :
    (step t a).1 = t.after (write? t a).toList := by
  cases a with
  | bare token =>
    rcases step_bare t token with ⟨items, hget, hstep⟩ | ⟨hnone, hstep⟩
    · have hgrown := write_defaultKey hget (items ++ [.string token])
      rw [hstep, write?, hget]
      exact (congrArg Tree.Written.tree hgrown).symm
    · rw [hstep, write?]
      split
      · next items hget => exact absurd hget (hnone items)
      · rfl
  | assignment name value =>
    rcases step_assignment t name value with ⟨hok, hstep⟩ | ⟨error, herror, hstep⟩
    · rw [hstep, write?, hok, assign_eq_write]
      rfl
    · rw [hstep, write?, herror]
      rfl
  | malformed token => rfl

/-- A run changes the tree by its writes. -/
theorem tree_run_eq_after (t : Tree) (as : List Argument) : (run t as).1 = t.after (made t as) := by
  induction as generalizing t with
  | nil => rfl
  | cons a as ih => rw [run_cons, made, Tree.after_append, ← tree_step_eq_after, ih]

/-- The write of a token puts a leaf at `default`, or at the name of the token if it is accepted. -/
theorem write?_eq_some {t : Tree} {a : Argument} {call : Tree.Call} (h : write? t a = some call) :
    call.node.isTree = false ∧ ∃ name, call.way = Path.keys name ∧
      (name = defaultKey ∨ (step t a).2.assigned? = some name) := by
  cases a with
  | bare token =>
    rw [write?] at h
    split at h
    · rw [Option.some.injEq] at h
      rw [← h]
      exact ⟨rfl, defaultKey, rfl, .inl rfl⟩
    · exact absurd h (by simp)
  | assignment name value =>
    rw [write?] at h
    rcases step_assignment t name value with ⟨hok, hstep⟩ | ⟨error, herror, -⟩
    · rw [hok, Option.some.injEq] at h
      rw [← h, hstep]
      exact ⟨rfl, name, rfl, .inr rfl⟩
    · rw [herror] at h
      exact absurd h (by simp)
  | malformed token => exact absurd h (by simp [write?])

theorem mem_made {t : Tree} {as : List Argument} {call : Tree.Call} (h : call ∈ made t as) :
    call.node.isTree = false ∧ ∃ name, call.way = Path.keys name ∧
      (name = defaultKey ∨ name ∈ (run t as).2.filterMap Outcome.assigned?) := by
  induction as generalizing t with
  | nil => exact absurd h List.not_mem_nil
  | cons a as ih =>
    rw [run_cons, filterMap_cons_toList]
    rcases List.mem_append.mp h with h | h
    · obtain ⟨hleaf, name, hway, hname⟩ := write?_eq_some (Option.mem_toList.mp h)
      refine ⟨hleaf, name, hway, hname.imp_right ?_⟩
      intro hassigned
      exact List.mem_append_left _ (Option.mem_toList.mpr hassigned)
    · obtain ⟨hleaf, name, hway, hname⟩ := ih h
      exact ⟨hleaf, name, hway, hname.imp_right (List.mem_append_right _)⟩

/-! ### Outcomes that agree -/

/-- The same outcome, but that a refusal may have another reason. -/
inductive Outcome.Agrees : Outcome → Outcome → Prop
  | same (outcome : Outcome) : Agrees outcome outcome
  | refused (name value : String) (error error' : Error) :
      Agrees (.rejected name value error) (.rejected name value error')

theorem Outcome.Agrees.assigned?_eq {outcome outcome' : Outcome} (h : outcome.Agrees outcome') :
    outcome'.assigned? = outcome.assigned? := by
  cases h <;> rfl

theorem Outcome.Agrees.isCollected_eq {outcome outcome' : Outcome} (h : outcome.Agrees outcome') :
    outcome'.isCollected = outcome.isCollected := by
  cases h <;> rfl

theorem Outcome.Agrees.dropped?_eq {outcome outcome' : Outcome} (h : outcome.Agrees outcome') :
    outcome'.dropped? = outcome.dropped? := by
  cases h <;> rfl

theorem Outcome.Agrees.refused?_eq {outcome outcome' : Outcome} (h : outcome.Agrees outcome') :
    outcome'.rejected?.map Prod.fst = outcome.rejected?.map Prod.fst := by
  cases h <;> rfl

section Agrees

variable {os os' : List Outcome} (h : List.Forall₂ Outcome.Agrees os os')

include h in
/-- What is picked from outcomes is the same where it is picked alike from outcomes that agree. -/
theorem filterMap_eq_of_agrees {α : Type} {f : Outcome → Option α}
    (hf : ∀ {outcome outcome'}, Outcome.Agrees outcome outcome' → f outcome' = f outcome) :
    os'.filterMap f = os.filterMap f := by
  induction h with
  | nil => rfl
  | cons hfirst _ ih => rw [filterMap_cons_toList, filterMap_cons_toList, hf hfirst, ih]

include h in
/-- Reports on outcomes that agree differ at most in the reasons of refusals. -/
theorem report_of_agrees :
    (Outcome.report os').assigned = (Outcome.report os).assigned ∧
      (Outcome.report os').defaults = (Outcome.report os).defaults ∧
      (Outcome.report os').dropped = (Outcome.report os).dropped ∧
      (Outcome.report os').rejected.map Prod.fst = (Outcome.report os).rejected.map Prod.fst := by
  refine ⟨filterMap_eq_of_agrees h Outcome.Agrees.assigned?_eq, ?_,
    filterMap_eq_of_agrees h Outcome.Agrees.dropped?_eq, ?_⟩
  · -- the number of outcomes that are marked, by one more for each that is
    show os'.countP Outcome.isCollected = os.countP Outcome.isCollected
    induction h with
    | nil => rfl
    | cons hfirst _ ih => rw [List.countP_cons, List.countP_cons, hfirst.isCollected_eq, ih]
  · show (os'.filterMap Outcome.rejected?).map Prod.fst =
      (os.filterMap Outcome.rejected?).map Prod.fst
    rw [List.map_filterMap, List.map_filterMap]
    exact filterMap_eq_of_agrees h Outcome.Agrees.refused?_eq

end Agrees

/-! ### The second run -/

section Again

-- `last` is what the second run starts from, and `all` the names that the first run accepted
variable {first last : Tree} {all : List String} (hlast : Shaped first all last)
  {accepted : List String}

include hlast in
/-- What the first run accepted makes no difference to the question what is accepted. -/
theorem admissible_again_iff {name : String}
    (hall : Admissible first accepted name → name ∈ all) :
    Admissible last accepted name ↔ Admissible first accepted name := by
  constructor
  · intro h
    refine ⟨h.segments, ?_, ?_, h.branches⟩
    · intro upper habove
      obtain ⟨hleaf, hmem⟩ := h.leaves upper habove
      rw [hlast.leaf, not_or] at hleaf
      exact ⟨hleaf.1, hmem⟩
    · intro htree
      exact h.tree ((hlast.tree name).mpr (.inl htree))
  · intro h
    have hname := hall h
    refine ⟨h.segments, ?_, ?_, h.branches⟩
    · intro upper habove
      obtain ⟨hleaf, hmem⟩ := h.leaves upper habove
      refine ⟨?_, hmem⟩
      rw [hlast.leaf, not_or]
      exact ⟨hleaf, fun hupper => hlast.not_above hupper hname habove⟩
    · rw [hlast.tree, not_or]
      refine ⟨h.tree, ?_⟩
      rintro ⟨lower, hlower, habove⟩
      exact hlast.not_above hname hlower habove

/-- The trees `s` of the first run and `r` of the second one, after the same tokens. -/
structure Abreast (first last : Tree) (accepted : List String) (s r : Tree) : Prop where
  once : Shaped first accepted s
  again : Shaped last accepted r
  list : r.get? defaultKey = s.get? defaultKey

/-- A token comes to the same in both trees. -/
structure SameStep (s r : Tree) (a : Argument) : Prop where
  outcome : Outcome.Agrees (step s a).2 (step r a).2
  write : write? r a = write? s a
  list : (step r a).1.get? defaultKey = (step s a).1.get? defaultKey

variable (hdefault : first.BindsLeaf defaultKey) {s r : Tree}

theorem sameStep_bare (h : r.get? defaultKey = s.get? defaultKey) (token : String) :
    SameStep s r (.bare token) := by
  have hwrite : write? r (.bare token) = write? s (.bare token) := by rw [write?, write?, h]
  rcases step_bare s token with ⟨items, hget, hs⟩ | ⟨hnone, hs⟩
  · have hr := step_bare_of_list (h.trans hget) token
    refine ⟨?_, hwrite, ?_⟩
    · rw [hs, hr]
      exact .same _
    · rw [hs, hr, Tree.get?_insert_self, Tree.get?_insert_self]
  · have hr : step r (.bare token) = (r, .lost token) := by
      apply step_bare_of_no_list
      intro items hget
      exact hnone items (h.symm.trans hget)
    refine ⟨?_, hwrite, ?_⟩
    · rw [hs, hr]
      exact .same _
    · rw [hs, hr, h]

/-- An assignment that both trees accept, or both refuse. -/
theorem sameStep_assignment (h : r.get? defaultKey = s.get? defaultKey)
    (hdefault : s.BindsLeaf defaultKey) {name value : String}
    (hiff : (assign r name value).result = .ok () ↔ (assign s name value).result = .ok ()) :
    SameStep s r (.assignment name value) := by
  rcases step_assignment s name value with ⟨hok, hs⟩ | ⟨error, herror, hs⟩
  · rcases step_assignment r name value with ⟨hok', hr⟩ | ⟨error', herror', -⟩
    · refine ⟨?_, ?_, ?_⟩
      · rw [hs, hr]
        exact .same _
      · rw [write?, write?, hok, hok']
      · rw [assign_eq_write] at hok hok'
        rw [hs, hr, assign_eq_write, assign_eq_write, ← find?_defaultKey, ← find?_defaultKey]
        by_cases hname : defaultKey = name
        · subst hname
          rw [Tree.find?_write_leaf_self hok, Tree.find?_write_leaf_self hok']
        · -- another leaf than the one that is written keeps its node
          have hleaf := isTree_string value
          obtain ⟨old, hold, hkind⟩ := Tree.bindsLeaf_iff.mp hdefault
          have hold' : r.find? (Path.keys defaultKey) = some old := by
            rw [find?_defaultKey, h, ← find?_defaultKey, hold]
          rw [Tree.find?_write_leaf_of_leaf hleaf hok hname hold hkind,
            Tree.find?_write_leaf_of_leaf hleaf hok' hname hold' hkind]
    · rw [hiff.mpr hok] at herror'
      exact absurd herror' (by simp)
  · rcases step_assignment r name value with ⟨hok', -⟩ | ⟨error', herror', hr⟩
    · rw [hiff.mp hok'] at herror
      exact absurd herror (by simp)
    · refine ⟨?_, ?_, ?_⟩
      · rw [hs, hr]
        exact .refused name value error error'
      · rw [write?, write?, herror, herror']
      · rw [hs, hr, h]

include hlast hdefault in
/-- The next token comes to the same in both runs. -/
theorem Abreast.sameStep (h : Abreast first last accepted s r) (a : Argument)
    (hall : ∀ name, (step s a).2.assigned? = some name → name ∈ all) : SameStep s r a := by
  cases a with
  | bare token => exact sameStep_bare h.list token
  | assignment name value =>
    apply sameStep_assignment h.list ((h.once.leaf defaultKey).mpr (.inl hdefault))
    rw [h.once.assign_ok_iff, h.again.assign_ok_iff]
    apply admissible_again_iff hlast
    intro hadmissible
    apply hall
    -- the first run accepts the name
    have hok := (h.once.assign_ok_iff name value).mpr hadmissible
    rw [step_assignment_eq, ← assign_eq_write, hok]
    rfl
  | malformed token => exact ⟨.same _, rfl, h.list⟩

theorem Abreast.step (h : Abreast first last accepted s r) {a : Argument} (hsame : SameStep s r a) :
    Abreast first last (accepted ++ (step s a).2.assigned?.toList) (step s a).1 (step r a).1 := by
  refine ⟨h.once.step a, ?_, hsame.list⟩
  have hagain := h.again.step a
  rwa [hsame.outcome.assigned?_eq] at hagain

include hlast hdefault in
/-- All tokens come to the same in both runs. -/
theorem Abreast.run (h : Abreast first last accepted s r) (as : List Argument)
    (hall : ∀ name ∈ (run s as).2.filterMap Outcome.assigned?, name ∈ all) :
    List.Forall₂ Outcome.Agrees (run s as).2 (run r as).2 ∧ made r as = made s as := by
  induction as generalizing s r accepted with
  | nil => exact ⟨.nil, rfl⟩
  | cons a as ih =>
    rw [run_cons, filterMap_cons_toList] at hall
    have hsame : SameStep s r a := by
      apply h.sameStep hlast hdefault
      intro name hname
      exact hall name (List.mem_append_left _ (Option.mem_toList.mpr hname))
    obtain ⟨hagrees, hmade⟩ := ih (h.step hsame) fun name hname =>
      hall name (List.mem_append_right _ hname)
    rw [run_cons, run_cons]
    refine ⟨.cons hsame.outcome hagrees, ?_⟩
    rw [made, made, hsame.write, hmade]

end Again

/-! ### The start of the second run -/

/-- The write that resets the list of bare tokens. -/
def reset : Tree.Call := .setPath defaultKey (.list [])

/-- Where `default` is a leaf, a run starts with a write. -/
theorem perform_reset {t : Tree} (h : t.BindsLeaf defaultKey) :
    reset.perform t = ⟨.ok (), start t⟩ := by
  obtain ⟨old, hold, hleaf⟩ := Tree.bindsLeaf_iff.mp h
  rw [find?_defaultKey] at hold
  exact write_defaultKey_of_leaf hold hleaf []

theorem start_start (t : Tree) : start (start t) = start t := Tree.insert_insert_self t _ _ _

theorem bindsLeaf_outcomes (args : List String) (t : Tree) :
    (outcomes args t).1.BindsLeaf defaultKey :=
  ((shaped_outcomes args t).leaf defaultKey).mpr (.inl (bindsLeaf_start t))

/-- The tree that a second run starts from has the shape that the first run left. -/
theorem shaped_start_outcomes (args : List String) (t : Tree) :
    Shaped (start t) ((report args t).assigned ++ [defaultKey]) (start (outcomes args t).1) := by
  have hreset := perform_reset (bindsLeaf_outcomes args t)
  have hok : (reset.perform (outcomes args t).1).result = .ok () := by rw [hreset]
  have hshaped := (shaped_outcomes args t).write (isTree_list []) hok
  have htree : (reset.perform (outcomes args t).1).tree = start (outcomes args t).1 := by
    rw [hreset]
  rw [← htree]
  exact hshaped

/-- The second run agrees with the first one, and makes the same writes. -/
theorem agrees_again (args : List String) (t : Tree) :
    let last := start (outcomes args t).1
    List.Forall₂ Outcome.Agrees (outcomes args t).2 (run last (tokens args)).2 ∧
      made last (tokens args) = made (start t) (tokens args) := by
  intro last
  have habreast : Abreast (start t) last [] (start t) last := by
    refine ⟨shaped_refl _, shaped_refl _, ?_⟩
    exact (Tree.get?_insert_self _ _ _).trans (Tree.get?_insert_self _ _ _).symm
  apply habreast.run (shaped_start_outcomes args t) (bindsLeaf_start t)
  intro name hname
  exact List.mem_append_left _ hname

/-- The writes of a run, after the reset, lead back to where they led to. -/
theorem after_made_again (args : List String) (t : Tree) :
    let calls := reset :: made (start t) (tokens args)
    ((start t).after calls).after calls = (start t).after calls := by
  intro calls
  have hshaped := shaped_start_outcomes args t
  have hcalls : ∀ call ∈ calls, call.node.isTree = false ∧ ∃ name, call.way = Path.keys name ∧
      name ∈ (report args t).assigned ++ [defaultKey] := by
    intro call hcall
    rcases List.mem_cons.mp hcall with rfl | hcall
    · exact ⟨rfl, defaultKey, rfl, List.mem_append_right _ (List.mem_singleton.mpr rfl)⟩
    · obtain ⟨hleaf, name, hway, hname⟩ := mem_made hcall
      refine ⟨hleaf, name, hway, ?_⟩
      rcases hname with rfl | hname
      · exact List.mem_append_right _ (List.mem_singleton.mpr rfl)
      · exact List.mem_append_left _ hname
  apply Tree.after_after
  · intro call hcall
    exact (hcalls call hcall).1
  · intro call hcall other hother
    obtain ⟨-, name, hway, hname⟩ := hcalls call hcall
    obtain ⟨-, name', hway', hname'⟩ := hcalls other hother
    rw [hway, hway']
    -- neither place lies above the other one
    rcases Path.compare (Path.keys name) (Path.keys name') with heq | habove | habove | hparted
    · exact .inl heq
    · exact absurd habove (hshaped.not_above hname hname')
    · exact absurd habove (hshaped.not_above hname' hname)
    · exact .inr hparted
  · exact fun call hcall => hcall

/-- The second run leads back to the tree that the first one led to. -/
theorem tree_outcomes_again (args : List String) (t : Tree) :
    (outcomes args (outcomes args t).1).1 = (outcomes args t).1 := by
  have hfirst : (outcomes args t).1 = (start t).after (reset :: made (start t) (tokens args)) := by
    rw [outcomes_eq_run, tree_run_eq_after, Tree.after, perform_reset (bindsLeaf_start t),
      start_start]
  have hsecond : (outcomes args (outcomes args t).1).1 =
      (outcomes args t).1.after (reset :: made (start t) (tokens args)) := by
    rw [outcomes_eq_run, tree_run_eq_after, (agrees_again args t).2, Tree.after,
      perform_reset (bindsLeaf_outcomes args t)]
  rw [hsecond, hfirst]
  exact after_made_again args t

/-- Overlaying the same tokens over their own result leaves this result, and the second report has
the same names written, as many bare tokens collected, the same tokens dropped and the same names
refused, in the same order. -/
theorem apply_again (args : List String) (t : Tree) :
    let once := (apply args t).value
    let twice := (apply args once.1).value
    twice.1 = once.1 ∧ twice.2.assigned = once.2.assigned ∧ twice.2.defaults = once.2.defaults ∧
      twice.2.dropped = once.2.dropped ∧
      twice.2.rejected.map Prod.fst = once.2.rejected.map Prod.fst := by
  intro once twice
  obtain ⟨hagrees, -⟩ := agrees_again args t
  exact ⟨tree_outcomes_again args t, report_of_agrees hagrees⟩

end Overlay

end ConfigLayers
