import Mathlib.Data.List.Forall2
import ConfigLayers.Proofs.Overlay.Contents

/-!
# The account of the tokens

Every token of a run has one outcome, in the order of the tokens, and the report counts it in one
place. A token that the report lists as dropped or rejected has left the tree as it was, so that the
run without these tokens comes to the same. The errors among the events name the assignments that
were rejected and the bare tokens that were lost, and a bare token is lost only after an assignment
to `default`.
-/

namespace ConfigLayers

/-- The name of an assignment. -/
def Argument.name? : Argument → Option String
  | assignment name _ => some name
  | _ => none

/-- A token that is no assignment is kept as it is, but for its outer white space. -/
theorem Argument.classify_cases (raw : String) :
    classify raw = .bare (Text.trim raw) ∨ classify raw = .malformed (Text.trim raw) ∨
      ∃ name value, classify raw = .assignment name value := by
  rw [classify, ofTrimmed]
  split
  · exact .inl rfl
  · split
    · next name value _ => exact .inr (.inr ⟨name, value, rfl⟩)
    · exact .inr (.inl rfl)

namespace Overlay

namespace Outcome

/-- The outcome is one that the raw token can have. -/
inductive IsOf (raw : String) : Outcome → Prop
  | assigned {name value : String} (h : Argument.classify raw = .assignment name value) :
      IsOf raw (.assigned name value)
  | rejected {name value : String} (error : Error)
      (h : Argument.classify raw = .assignment name value) :
      IsOf raw (.rejected name value error)
  | collected (h : Argument.classify raw = .bare (Text.trim raw)) :
      IsOf raw (.collected (Text.trim raw))
  | lost (h : Argument.classify raw = .bare (Text.trim raw)) : IsOf raw (.lost (Text.trim raw))
  | malformed (h : Argument.classify raw = .malformed (Text.trim raw)) :
      IsOf raw (.malformed (Text.trim raw))

/-- The token has taken effect: its assignment was written, or it was added to the list. -/
def tookEffect : Outcome → Bool
  | assigned .. | collected _ => true
  | rejected .. | lost _ | malformed _ => false

/-- The event that complains about the token. -/
def complaint? : Outcome → Option Event
  | rejected name _ error => some (.assignmentRejected name error)
  | lost token => some (.bareTokenLost token)
  | _ => none

end Outcome

variable {t : Tree} {raw : String} {a : Argument}

/-! ### One token -/

theorem isOf_step (t : Tree) (raw : String) :
    Outcome.IsOf raw (step t (Argument.classify raw)).2 := by
  rcases Argument.classify_cases raw with h | h | ⟨name, value, h⟩
  · rw [h]
    rcases step_bare t (Text.trim raw) with ⟨items, -, hstep⟩ | ⟨-, hstep⟩
    · rw [hstep]
      exact .collected h
    · rw [hstep]
      exact .lost h
  · rw [h, step_malformed]
    exact .malformed h
  · rw [h]
    rcases step_assignment t name value with ⟨-, hstep⟩ | ⟨error, -, hstep⟩
    · rw [hstep]
      exact .assigned h
    · rw [hstep]
      exact .rejected error h

/-- A token without effect leaves the tree as it is. -/
theorem tree_step_of_not_tookEffect (h : (step t a).2.tookEffect = false) : (step t a).1 = t := by
  cases a with
  | bare token =>
    rcases step_bare t token with ⟨items, -, hstep⟩ | ⟨-, hstep⟩
    · rw [hstep] at h
      exact absurd h (by simp [Outcome.tookEffect])
    · rw [hstep]
  | assignment name value =>
    rcases step_assignment t name value with ⟨-, hstep⟩ | ⟨error, -, hstep⟩
    · rw [hstep] at h
      exact absurd h (by simp [Outcome.tookEffect])
    · rw [hstep]
  | malformed token => rfl

/-- The list of bare tokens stays a list, and no bare token is lost, until `default` is assigned
to. -/
theorem step_of_list {items : List Node} (h : t.get? defaultKey = some (.list items))
    (a : Argument) :
    (∃ value, (step t a).2 = .assigned defaultKey value) ∨
      (∃ more, (step t a).1.get? defaultKey = some (.list more)) ∧
        ∀ token, (step t a).2 ≠ .lost token := by
  cases a with
  | bare token =>
    rw [step_bare_of_list h]
    exact .inr ⟨⟨_, Tree.get?_insert_self _ _ _⟩, by simp⟩
  | assignment name value =>
    rcases step_assignment t name value with ⟨hok, hstep⟩ | ⟨error, -, hstep⟩
    · rw [hstep]
      by_cases hname : defaultKey = name
      · exact .inl ⟨value, by rw [hname]⟩
      · -- an assignment to another name does not reach the list
        rw [assign_eq_write] at hok
        rw [← find?_defaultKey] at h
        have hkept := Tree.find?_write_leaf_of_leaf (isTree_string value) hok hname h rfl
        rw [find?_defaultKey, ← assign_eq_write] at hkept
        exact .inr ⟨⟨items, hkept⟩, by simp⟩
    · rw [hstep]
      exact .inr ⟨⟨items, h⟩, by simp⟩
  | malformed token => exact .inr ⟨⟨items, h⟩, by simp [step_malformed]⟩

/-! ### Whole runs -/

/-- Every token has an outcome of its own, in the order of the tokens. -/
theorem forall₂_isOf (t : Tree) (raws : List String) :
    List.Forall₂ Outcome.IsOf raws (run t (raws.map Argument.classify)).2 := by
  induction raws generalizing t with
  | nil => exact .nil
  | cons raw raws ih =>
    rw [List.map_cons, run_cons]
    exact .cons (isOf_step t raw) (ih _)

/-- The tokens that took effect. -/
def effective : List String → List Outcome → List String
  | raw :: raws, outcome :: outcomes =>
    if outcome.tookEffect then raw :: effective raws outcomes else effective raws outcomes
  | _, _ => []

/-- Without the other tokens the run leads to the same tree, and the tokens that are left have the
outcomes that they had. -/
theorem run_effective (t : Tree) (raws : List String) :
    run t ((effective raws (run t (raws.map Argument.classify)).2).map Argument.classify) =
      ((run t (raws.map Argument.classify)).1,
        (run t (raws.map Argument.classify)).2.filter Outcome.tookEffect) := by
  induction raws generalizing t with
  | nil => rfl
  | cons raw raws ih =>
    rw [List.map_cons, run_cons, effective]
    cases h : (step t (Argument.classify raw)).2.tookEffect with
    | true => rw [if_pos rfl, List.map_cons, run_cons, ih, List.filter_cons_of_pos h]
    | false =>
      -- the run goes on from the same tree as if the token were not there
      have htree := tree_step_of_not_tookEffect h
      rw [if_neg (by simp), List.filter_cons_of_neg (by simp [h]), htree]
      exact ih t

/-- A bare token is lost only after an assignment to `default`. -/
theorem assigned_of_lost {items : List Node} (h : t.get? defaultKey = some (.list items))
    {as : List Argument} {before after : List Outcome} {token : String}
    (hrun : (run t as).2 = before ++ .lost token :: after) :
    ∃ value, .assigned defaultKey value ∈ before := by
  induction as generalizing t items before with
  | nil => exact absurd hrun (by simp)
  | cons a as ih =>
    rw [run_cons] at hrun
    cases before with
    | nil =>
      -- the very first outcome: the list is still there
      have hfirst : (step t a).2 = .lost token := (List.cons.inj hrun).1
      rcases step_of_list h a with ⟨value, hassigned⟩ | ⟨-, hnot⟩
      · rw [hassigned] at hfirst
        exact absurd hfirst (by simp)
      · exact absurd hfirst (hnot token)
    | cons first before =>
      obtain ⟨hfirst, hrest⟩ := List.cons.inj hrun
      rcases step_of_list h a with ⟨value, hassigned⟩ | ⟨⟨more, hmore⟩, -⟩
      · refine ⟨value, ?_⟩
        rw [← hassigned, hfirst]
        exact List.mem_cons_self
      · obtain ⟨value, hmem⟩ := ih hmore hrest
        exact ⟨value, List.mem_cons_of_mem first hmem⟩

/-! ### Reports -/

/-- Every outcome is counted in one place of the report. -/
theorem report_counts (os : List Outcome) :
    (Outcome.report os).assigned.length + (Outcome.report os).defaults +
      (Outcome.report os).dropped.length + (Outcome.report os).rejected.length = os.length := by
  simp only [Outcome.report]
  induction os with
  | nil => rfl
  | cons outcome os ih =>
    simp only [filterMap_cons_toList, List.countP_cons, List.length_append, List.length_cons]
    cases outcome <;>
      simp [Outcome.assigned?, Outcome.isCollected, Outcome.dropped?, Outcome.rejected?] <;> omega

/-- The outcomes of the tokens that took effect tell of no other tokens. -/
theorem report_tookEffect (os : List Outcome) :
    Outcome.report (os.filter Outcome.tookEffect) =
      ⟨(Outcome.report os).assigned, (Outcome.report os).defaults, [], []⟩ := by
  rw [Outcome.report, List.filterMap_filter, List.countP_filter, Report.mk.injEq,
    List.filterMap_eq_nil_iff, List.filterMap_eq_nil_iff]
  refine ⟨?_, ?_, ?_, ?_⟩
  · show os.filterMap _ = os.filterMap _
    congr 1
    funext outcome
    cases outcome <;> rfl
  · show os.countP _ = os.countP _
    congr 1
    funext outcome
    cases outcome <;> rfl
  · intro outcome houtcome
    have heffect : outcome.tookEffect = true := (List.mem_filter.mp houtcome).2
    cases outcome <;> simp_all [Outcome.tookEffect, Outcome.dropped?]
  · intro outcome houtcome
    have heffect : outcome.tookEffect = true := (List.mem_filter.mp houtcome).2
    cases outcome <;> simp_all [Outcome.tookEffect, Outcome.rejected?]

/-- Of the assignments to a name each one is reported as written or as refused. -/
theorem count_name {raws : List String} {os : List Outcome}
    (h : List.Forall₂ Outcome.IsOf raws os) (name : String) :
    ((raws.map Argument.classify).filterMap Argument.name?).count name =
      (Outcome.report os).assigned.count name +
        ((Outcome.report os).rejected.map Prod.fst).count name := by
  simp only [Outcome.report]
  induction h with
  | nil => rfl
  | cons hfirst _ ih =>
    simp only [List.map_cons, filterMap_cons_toList, List.map_append, List.count_append, ih]
    cases hfirst <;> rename_i hraw <;>
      simp [hraw, Argument.name?, Outcome.assigned?, Outcome.rejected?] <;> omega

/-- The errors among the events of an outcome: its complaint, if there is one. -/
theorem errors_events (outcome : Outcome) :
    outcome.events.filter (·.level = .error) = outcome.complaint?.toList := by
  have hread (name value : String) :
      (Outcome.assignmentEvents name value).filter (·.level = .error) = [] := by
    rw [Outcome.assignmentEvents]
    split <;> rfl
  cases outcome with
  | assigned name value => exact hread name value
  | rejected name value error =>
    rw [Outcome.events, List.filter_append, hread]
    rfl
  | _ => rfl

theorem errors_flatMap_events (os : List Outcome) :
    (os.flatMap Outcome.events).filter (·.level = .error) = os.filterMap Outcome.complaint? := by
  induction os with
  | nil => rfl
  | cons outcome os ih =>
    rw [List.flatMap_cons, List.filter_append, errors_events, ih, filterMap_cons_toList]

/-- Every token after the program has one outcome, in the order of the tokens, and is counted once
in the report, which lists names and trimmed tokens in that order. The tokens that took effect alone
give the same tree and the same report, but with nothing dropped or rejected. The errors are those
about the assignments that were rejected and the bare tokens that were lost, and before a lost one
`default` was assigned to. -/
theorem apply_accounts (args : List String) (t : Tree) :
    let raws := args.drop 1
    let os := (outcomes args t).2
    let applied := (apply args t).value
    (List.Forall₂ Outcome.IsOf raws os ∧
      applied.2.assigned = os.filterMap Outcome.assigned? ∧
      applied.2.dropped = os.filterMap Outcome.dropped? ∧
      applied.2.rejected = os.filterMap Outcome.rejected?) ∧
    applied.2.assigned.length + applied.2.defaults + applied.2.dropped.length +
      applied.2.rejected.length = raws.length ∧
    (apply (args.take 1 ++ effective raws os) t).value =
      (applied.1, ⟨applied.2.assigned, applied.2.defaults, [], []⟩) ∧
    (apply args t).events.filter (·.level = .error) = os.filterMap Outcome.complaint? ∧
    ∀ before token after, os = before ++ .lost token :: after →
      ∃ value, .assigned defaultKey value ∈ before := by
  intro raws os applied
  have hof : List.Forall₂ Outcome.IsOf raws os := forall₂_isOf (start t) raws
  refine ⟨⟨hof, rfl, rfl, rfl⟩, ?_, ?_, ?_, ?_⟩
  · rw [hof.length_eq]
    exact report_counts os
  · have hargs : (args.take 1 ++ effective raws os).drop 1 = effective raws os := by
      cases args <;> rfl
    have hrun : outcomes (args.take 1 ++ effective raws os) t =
        (applied.1, os.filter Outcome.tookEffect) := by
      rw [outcomes, hargs]
      exact run_effective (start t) raws
    rw [apply, hrun]
    exact congrArg (Prod.mk applied.1) (report_tookEffect os)
  · show (List.filter _ (.argumentsPassed raws :: os.flatMap Outcome.events)) = _
    rw [List.filter_cons_of_neg (by simp [Event.level]), errors_flatMap_events]
  · intro before token after hos
    exact assigned_of_lost (Tree.get?_insert_self t defaultKey _) hos

/-- A bare token before an assignment to `default` is collected and one after it is lost. -/
theorem apply_accounts_sample :
    let args := ["prog", "a", "--default=x", " b ", "--c", "--d..e=1"]
    (outcomes args .empty).2 = [.collected "a", .assigned "default" "x"] ++ .lost "b" ::
      [.malformed "--c", .rejected "d..e" "1" (.invalidPath "d..e")] ∧
    (apply ["prog", "a", "--default=x"] .empty).value.1 = (apply args .empty).value.1 ∧
    ∃ value, Outcome.assigned defaultKey value ∈ [.collected "a", .assigned "default" "x"] := by
  intro args
  obtain ⟨-, -, heffective, -, hlost⟩ := apply_accounts args .empty
  have hos : (outcomes args .empty).2 = [.collected "a", .assigned "default" "x"] ++ .lost "b" ::
      [.malformed "--c", .rejected "d..e" "1" (.invalidPath "d..e")] := by rfl
  refine ⟨hos, ?_, hlost _ _ _ hos⟩
  rw [hos] at heffective
  have htree := congrArg Prod.fst heffective
  exact htree

end Overlay

end ConfigLayers
