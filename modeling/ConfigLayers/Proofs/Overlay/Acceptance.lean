import ConfigLayers.Proofs.Overlay.Run
import ConfigLayers.Proofs.Tree.Leaves

/-!
# Which assignments are accepted

Whether the tree accepts an assignment depends on the tree as the tokens before it left it. That
tree binds to leaves what the first one bound to leaves and the accepted names, and to trees what
the first one bound to trees and the paths above accepted names. So the question is answered without
a run: from the first tree and the names accepted before.
-/

namespace ConfigLayers.Overlay

/-- An assignment to the name is accepted after those to the names in `accepted`, where the run
started from `t`. -/
structure Admissible (t : Tree) (accepted : List String) (name : String) : Prop where
  /-- No segment is empty. -/
  segments : "" ∉ Path.keys name
  /-- No path above the name is a leaf or was made one. -/
  leaves : ∀ upper, Path.Above (Path.keys upper) (Path.keys name) →
    ¬ t.BindsLeaf upper ∧ upper ∉ accepted
  /-- The name is not that of a tree. -/
  tree : ¬ t.BindsTree name
  /-- The name was not made that of a tree. -/
  branches : ∀ lower ∈ accepted, ¬ Path.Above (Path.keys name) (Path.keys lower)

/-! ### The shape of the tree during a run -/

/-- The leaves and trees of `t` are those of `first`, the accepted names, and what lies above
them. -/
structure Shaped (first : Tree) (accepted : List String) (t : Tree) : Prop where
  leaf : ∀ q, t.BindsLeaf q ↔ first.BindsLeaf q ∨ q ∈ accepted
  tree : ∀ q, t.BindsTree q ↔
    first.BindsTree q ∨ ∃ name ∈ accepted, Path.Above (Path.keys q) (Path.keys name)

variable {first t : Tree} {accepted : List String}

theorem shaped_refl (first : Tree) : Shaped first [] first where
  leaf q := by simp
  tree q := by simp

theorem isTree_string (value : String) : (Node.string value).isTree = false := rfl

theorem isTree_list (items : List Node) : (Node.list items).isTree = false := rfl

/-- An assignment succeeds if and only if its name is admissible. -/
theorem Shaped.assign_ok_iff (h : Shaped first accepted t) (name value : String) :
    (assign t name value).result = .ok () ↔ Admissible first accepted name := by
  rw [assign_eq_write, Tree.setInPlace_result_eq_ok_iff, Tree.open_keys_iff (isTree_string value)]
  constructor
  · rintro ⟨-, hsegments, hleaves, htree⟩
    refine ⟨hsegments, ?_, ?_, ?_⟩
    · intro upper habove
      have hleaf := hleaves upper habove
      rw [h.leaf, not_or] at hleaf
      exact hleaf
    · intro hbinds
      exact htree ((h.tree name).mpr (.inl hbinds))
    · intro lower hlower habove
      exact htree ((h.tree name).mpr (.inr ⟨lower, hlower, habove⟩))
  · intro hadmissible
    refine ⟨Path.keys_ne_nil name, hadmissible.segments, ?_, ?_⟩
    · intro upper habove hbinds
      obtain ⟨hfirst, hmem⟩ := hadmissible.leaves upper habove
      exact ((h.leaf upper).mp hbinds).elim hfirst hmem
    · intro hbinds
      rcases (h.tree name).mp hbinds with hfirst | ⟨lower, hlower, habove⟩
      · exact hadmissible.tree hfirst
      · exact hadmissible.branches lower hlower habove

/-- The kind of the error of a refused assignment: an empty segment is found before the walk. -/
theorem error_of_assign {name value : String} {error : Error}
    (h : (assign t name value).result = .error error) :
    if "" ∈ Path.keys name then error = .invalidPath name
    else ∃ path existing attempted, error = .kindConflict path existing attempted := by
  rw [assign_eq_write] at h
  cases hkeys : Path.keys name with
  | nil => exact absurd hkeys (Path.keys_ne_nil name)
  | cons key rest =>
    rw [hkeys] at h
    split
    · next hmem =>
      rw [Tree.setInPlace, if_pos hmem, ← hkeys, Path.dotted_keys] at h
      exact (Except.error.inj h).symm
    · next hmem =>
      rw [Tree.setInPlace_cons t _ hmem] at h
      exact Tree.exists_kindConflict_of_write_error h

/-- A write that makes a name a leaf keeps the shape with that name. -/
theorem Shaped.write (h : Shaped first accepted t) {name : String} {node : Node}
    (hleaf : node.isTree = false)
    (hok : (t.setInPlace (Path.keys name) node).result = .ok ()) :
    Shaped first (accepted ++ [name]) (t.setInPlace (Path.keys name) node).tree where
  leaf q := by
    rw [Tree.bindsLeaf_write_leaf_iff hleaf hok, h.leaf, List.mem_append, List.mem_singleton,
      or_assoc]
  tree q := by
    rw [Tree.bindsTree_write_leaf_iff hleaf hok, h.tree, or_assoc]
    -- above one of the names after the write means above an earlier one or above the new one
    apply or_congr_right
    constructor
    · rintro (⟨lower, hlower, habove⟩ | habove)
      · exact ⟨lower, List.mem_append_left _ hlower, habove⟩
      · exact ⟨name, List.mem_append_right _ (List.mem_singleton.mpr rfl), habove⟩
    · rintro ⟨lower, hlower, habove⟩
      rcases List.mem_append.mp hlower with hlower | hlower
      · exact .inl ⟨lower, hlower, habove⟩
      · rw [List.mem_singleton.mp hlower] at habove
        exact .inr habove

/-- Growing the list of bare tokens changes no shape. -/
theorem Shaped.collect (h : Shaped first accepted t) {items more : List Node}
    (hget : t.get? defaultKey = some (.list items)) :
    Shaped first accepted (t.insert defaultKey (.list more)) := by
  have hwrite := write_defaultKey hget more
  have hok : (t.setInPlace (Path.keys defaultKey) (.list more)).result = .ok () := by rw [hwrite]
  have htree : (t.setInPlace (Path.keys defaultKey) (.list more)).tree =
      t.insert defaultKey (.list more) := by rw [hwrite]
  have hleaf : t.BindsLeaf defaultKey := by
    refine Tree.bindsLeaf_iff.mpr ⟨.list items, ?_, rfl⟩
    rw [find?_defaultKey, hget]
  rw [← htree]
  constructor
  · intro q
    rw [Tree.bindsLeaf_write_leaf_iff (isTree_list more) hok, ← h.leaf]
    constructor
    · rintro (hq | rfl)
      · exact hq
      · exact hleaf
    · exact .inl
  · intro q
    rw [Tree.bindsTree_write_leaf_iff (isTree_list more) hok, ← h.tree]
    constructor
    · rintro (hq | habove)
      · exact hq
      · exact absurd habove (not_above_defaultKey q)
    · exact .inl

/-- Every token keeps the shape, with its name if it is an accepted assignment. -/
theorem Shaped.step (h : Shaped first accepted t) (a : Argument) :
    Shaped first (accepted ++ (step t a).2.assigned?.toList) (step t a).1 := by
  cases a with
  | bare token =>
    rcases step_bare t token with ⟨items, hget, hstep⟩ | ⟨-, hstep⟩
    · simpa [hstep, Outcome.assigned?] using h.collect hget
    · simpa [hstep, Outcome.assigned?] using h
  | assignment name value =>
    rcases step_assignment t name value with ⟨hok, hstep⟩ | ⟨error, -, hstep⟩
    · rw [hstep, Outcome.assigned?, Option.toList_some]
      rw [assign_eq_write] at hok ⊢
      exact h.write (isTree_string value) hok
    · simpa [hstep, Outcome.assigned?] using h
  | malformed token => simpa [step_malformed, Outcome.assigned?] using h

/-- So does every run. -/
theorem Shaped.run (h : Shaped first accepted t) (as : List Argument) :
    Shaped first (accepted ++ (run t as).2.filterMap Outcome.assigned?) (run t as).1 := by
  induction as generalizing t accepted with
  | nil =>
    rw [run_nil, List.filterMap_nil, List.append_nil]
    exact h
  | cons a as ih =>
    have hrest := ih (h.step a)
    rw [List.append_assoc] at hrest
    rw [run_cons, filterMap_cons_toList]
    exact hrest

theorem shaped_outcomes (args : List String) (t : Tree) :
    Shaped (start t) (report args t).assigned (outcomes args t).1 := by
  have h := (shaped_refl (start t)).run (tokens args)
  rw [List.nil_append] at h
  exact h

/-- No accepted name is above another one: the one above would be a leaf and a tree. -/
theorem Shaped.not_above (h : Shaped first accepted t) {upper lower : String}
    (hupper : upper ∈ accepted) (hlower : lower ∈ accepted) :
    ¬ Path.Above (Path.keys upper) (Path.keys lower) := by
  intro habove
  -- the name above would be bound to a leaf and to a tree
  have hleaf : t.BindsLeaf upper := (h.leaf upper).mpr (.inr hupper)
  have htree : t.BindsTree upper := (h.tree upper).mpr (.inr ⟨lower, hlower, habove⟩)
  exact hleaf.not_bindsTree htree

/-! ### The report on an assignment -/

/-- What an assignment adds to the report on the tokens before it. -/
theorem report_concat_assignment (program : String) (before : List String)
    {raw name value : String} (hraw : Argument.classify raw = .assignment name value) (t : Tree) :
    let earlier := report (program :: before) t
    let next := report (program :: (before ++ [raw])) t
    (Admissible (start t) earlier.assigned name →
      next = { earlier with assigned := earlier.assigned ++ [name] }) ∧
    (¬ Admissible (start t) earlier.assigned name →
      ∃ error, next = { earlier with rejected := earlier.rejected ++ [(name, error)] } ∧
        if "" ∈ Path.keys name then error = .invalidPath name
        else ∃ path existing attempted, error = .kindConflict path existing attempted) := by
  intro earlier next
  have hiff := (shaped_outcomes (program :: before) t).assign_ok_iff name value
  have hconcat := outcomes_concat program before raw t
  rw [hraw] at hconcat
  have hnext : next = Outcome.report (outcomes (program :: (before ++ [raw])) t).2 := rfl
  rw [hconcat] at hnext
  rcases step_assignment (outcomes (program :: before) t).1 name value with
    ⟨hok, hstep⟩ | ⟨error, herror, hstep⟩
  · refine ⟨?_, fun hnot => absurd (hiff.mp hok) hnot⟩
    intro _
    rw [hnext, hstep]
    simp [Outcome.report, Outcome.assigned?, Outcome.dropped?, Outcome.rejected?,
      Outcome.isCollected, earlier, report_eq]
  · constructor
    · intro hadmissible
      rw [hiff.mpr hadmissible] at herror
      exact absurd herror (by simp)
    · intro _
      refine ⟨error, ?_, error_of_assign herror⟩
      rw [hnext, hstep]
      simp [Outcome.report, Outcome.assigned?, Outcome.dropped?, Outcome.rejected?,
        Outcome.isCollected, earlier, report_eq]

/-- The report says of every assignment what its name, the first tree and the names accepted before
decide: an admissible name is the next one that was written, and any other one the next that was
refused, for an empty segment or else for a conflict of kinds. What is reported stays reported, and
none of the names that were written is above another one. -/
theorem report_iff_admissible (args : List String) (t : Tree) :
    (∀ program before raw after name value, args = program :: (before ++ raw :: after) →
      Argument.classify raw = .assignment name value →
      let earlier := report (program :: before) t
      let next := report (program :: (before ++ [raw])) t
      (Admissible (start t) earlier.assigned name →
        next = { earlier with assigned := earlier.assigned ++ [name] }) ∧
      (¬ Admissible (start t) earlier.assigned name →
        ∃ error, next = { earlier with rejected := earlier.rejected ++ [(name, error)] } ∧
          if "" ∈ Path.keys name then error = .invalidPath name
          else ∃ path existing attempted, error = .kindConflict path existing attempted) ∧
      next.assigned <+: (report args t).assigned ∧ next.rejected <+: (report args t).rejected) ∧
    (∀ upper ∈ (report args t).assigned, ∀ lower ∈ (report args t).assigned,
      ¬ Path.Above (Path.keys upper) (Path.keys lower)) := by
  refine ⟨?_, ?_⟩
  · intro program before raw after name value hargs hraw earlier next
    obtain ⟨haccept, hrefuse⟩ := report_concat_assignment program before hraw t
    have hcontinues := report_prefix program (before ++ [raw]) after t
    rw [List.append_assoc, List.singleton_append, ← hargs] at hcontinues
    exact ⟨haccept, hrefuse, hcontinues⟩
  · intro upper hupper lower hlower
    exact (shaped_outcomes args t).not_above hupper hlower

/-- A name below an accepted one is refused. -/
theorem report_name_below_accepted :
    Argument.classify "--a.b.c=2" = .assignment "a.b.c" "2" ∧
      ∃ path existing attempted, (report ["prog", "--a.b=1", "--a.b.c=2"] .empty).rejected =
        [("a.b.c", .kindConflict path existing attempted)] := by
  have hraw : Argument.classify "--a.b.c=2" = .assignment "a.b.c" "2" := by decide
  obtain ⟨-, hrefuse, -⟩ := (report_iff_admissible ["prog", "--a.b=1", "--a.b.c=2"] .empty).1
    "prog" ["--a.b=1"] "--a.b.c=2" [] "a.b.c" "2" rfl hraw
  have hadmissible : ¬ Admissible (start .empty) ["a.b"] "a.b.c" := by
    intro h
    have habove : Path.Above (Path.keys "a.b") (Path.keys "a.b.c") := ⟨by decide, by decide⟩
    exact (h.leaves "a.b" habove).2 (List.mem_singleton.mpr rfl)
  obtain ⟨error, hreport, hkind⟩ := hrefuse hadmissible
  rw [if_neg (by decide)] at hkind
  obtain ⟨path, existing, attempted, rfl⟩ := hkind
  exact ⟨hraw, path, existing, attempted, congrArg Report.rejected hreport⟩

end ConfigLayers.Overlay
