import ConfigLayers.Proofs.Overlay.Acceptance

/-!
# What an overlaid tree binds

After a run every accepted name is bound to the value that was assigned to it last, and `default` to
the list of the bare tokens unless it is an accepted name itself. All else is bound as before the
run, but for the trees above accepted names.
-/

namespace ConfigLayers

/-- The token of a bare argument. -/
def Argument.bare? : Argument → Option String
  | bare token => some token
  | _ => none

namespace Overlay

/-- The bare tokens among arguments. -/
def bareTokens (arguments : List Argument) : List String := arguments.filterMap Argument.bare?

/-- The name and the value that were written. -/
def Outcome.write? : Outcome → Option (String × String)
  | assigned name value => some (name, value)
  | _ => none

/-- What the accepted assignments of a run wrote, in order. -/
def writes (args : List String) (t : Tree) : List (String × String) :=
  (outcomes args t).2.filterMap Outcome.write?

/-- The value that was written last under a name. -/
def lastValue? (writes : List (String × String)) (name : String) : Option String :=
  writes.reverse.lookup name

/-! ### Written names -/

/-- The names that were written are those that the report lists. -/
theorem map_fst_writes (args : List String) (t : Tree) :
    (writes args t).map Prod.fst = (report args t).assigned := by
  rw [writes, assigned_report, List.map_filterMap]
  congr 1
  funext outcome
  cases outcome <;> rfl

theorem lastValue?_concat_self (writes : List (String × String)) (name value : String) :
    lastValue? (writes ++ [(name, value)]) name = some value := by
  rw [lastValue?, List.reverse_concat, List.lookup_cons_self]

theorem lastValue?_concat_of_ne (writes : List (String × String)) {name q : String} (value : String)
    (h : q ≠ name) : lastValue? (writes ++ [(name, value)]) q = lastValue? writes q := by
  rw [lastValue?, List.reverse_concat, List.lookup_cons, beq_false_of_ne h]
  rfl

theorem lastValue?_eq_none_iff {writes : List (String × String)} {name : String} :
    lastValue? writes name = none ↔ name ∉ writes.map Prod.fst := by
  rw [lastValue?, List.lookup_eq_none_iff, List.mem_map]
  constructor
  · rintro h ⟨entry, hentry, rfl⟩
    exact absurd (h entry (List.mem_reverse.mpr hentry)) (by simp)
  · intro h entry hentry
    exact bne_iff_ne.mpr fun heq => h ⟨entry, List.mem_reverse.mp hentry, heq.symm⟩

/-! ### The contents of the tree during a run -/

/-- The tree `t` binds what a run wrote and collected that started from `first`. -/
structure Contents (first : Tree) (bare : List String) (writes : List (String × String))
    (t : Tree) : Prop where
  written : ∀ name value, lastValue? writes name = some value →
    t.find? (Path.keys name) = some (.string value)
  collected : lastValue? writes defaultKey = none →
    t.find? (Path.keys defaultKey) = some (.list (bare.map .string))
  kept : ∀ q, lastValue? writes q = none → q ≠ defaultKey →
    (∀ name ∈ writes.map Prod.fst, ¬ Path.Above (Path.keys q) (Path.keys name)) →
    t.find? (Path.keys q) = first.find? (Path.keys q)

variable {first t : Tree} {bare : List String} {writes : List (String × String)}

theorem contents_start (t : Tree) : Contents (start t) [] [] (start t) where
  written _ _ h := absurd h (by simp [lastValue?])
  collected _ := by rw [find?_defaultKey, start, Tree.get?_insert_self, List.map_nil]
  kept _ _ _ _ := rfl

/-- An accepted assignment becomes the last one to its name. -/
theorem Contents.write (h : Contents first bare writes t) {name value : String}
    (hok : (t.setInPlace (Path.keys name) (.string value)).result = .ok ()) :
    Contents first bare (writes ++ [(name, value)])
      (t.setInPlace (Path.keys name) (.string value)).tree := by
  have hleaf := isTree_string value
  constructor
  · intro q last hlast
    by_cases hq : q = name
    · subst hq
      rw [lastValue?_concat_self, Option.some.injEq] at hlast
      rw [Tree.find?_write_leaf_self hok, hlast]
    · rw [lastValue?_concat_of_ne writes value hq] at hlast
      exact Tree.find?_write_leaf_of_leaf hleaf hok hq (h.written q last hlast) rfl
  · intro hlast
    by_cases hq : defaultKey = name
    · rw [← hq, lastValue?_concat_self] at hlast
      exact absurd hlast (by simp)
    · rw [lastValue?_concat_of_ne writes value hq] at hlast
      exact Tree.find?_write_leaf_of_leaf hleaf hok hq (h.collected hlast) rfl
  · intro q hlast hdefault habove
    rw [List.map_append, List.forall_mem_append] at habove
    obtain ⟨habove, hname⟩ := habove
    by_cases hq : q = name
    · rw [hq, lastValue?_concat_self] at hlast
      exact absurd hlast (by simp)
    · rw [lastValue?_concat_of_ne writes value hq] at hlast
      rw [Tree.find?_write_leaf_of_ne hleaf hok hq (hname name (List.mem_singleton.mpr rfl))]
      exact h.kept q hlast hdefault habove

/-- A bare token ends the list, while there is one. -/
theorem Contents.collect (h : Contents first bare writes t) {items : List Node}
    (hget : t.get? defaultKey = some (.list items)) (token : String) :
    Contents first (bare ++ [token]) writes
      (t.insert defaultKey (.list (items ++ [.string token]))) := by
  have hwrite := write_defaultKey hget (items ++ [.string token])
  have hother : ∀ q, q ≠ defaultKey →
      (t.insert defaultKey (.list (items ++ [.string token]))).find? (Path.keys q) =
        t.find? (Path.keys q) := by
    intro q hne
    have hok : (t.setInPlace (Path.keys defaultKey)
        (.list (items ++ [.string token]))).result = .ok () := by rw [hwrite]
    have hfind := Tree.find?_write_leaf_of_ne (isTree_list _) hok hne (not_above_defaultKey q)
    rwa [hwrite] at hfind
  constructor
  · intro name value hlast
    have hfind := h.written name value hlast
    -- a value written under `default` would stand in place of the list
    have hne : name ≠ defaultKey := by
      rintro rfl
      rw [find?_defaultKey, hget] at hfind
      exact absurd hfind (by simp)
    rw [hother name hne, hfind]
  · intro hlast
    have hitems : items = bare.map .string := by
      have hlist := h.collected hlast
      rwa [find?_defaultKey, hget, Option.some.injEq, Node.list.injEq] at hlist
    rw [find?_defaultKey, Tree.get?_insert_self, hitems, List.map_append, List.map_singleton]
  · intro q hlast hdefault habove
    rw [hother q hdefault, h.kept q hlast hdefault habove]

/-- A bare token is lost only after an assignment to `default`. -/
theorem Contents.lose (h : Contents first bare writes t)
    (hget : ∀ items, t.get? defaultKey ≠ some (.list items)) (token : String) :
    Contents first (bare ++ [token]) writes t where
  written := h.written
  collected hlast := by
    -- without such an assignment there is a list for the token
    have hlist := h.collected hlast
    rw [find?_defaultKey] at hlist
    exact absurd hlist (hget _)
  kept := h.kept

/-- Every token keeps the account of the contents. -/
theorem Contents.step (h : Contents first bare writes t) (a : Argument) :
    Contents first (bare ++ a.bare?.toList) (writes ++ (step t a).2.write?.toList)
      (step t a).1 := by
  cases a with
  | bare token =>
    rcases step_bare t token with ⟨items, hget, hstep⟩ | ⟨hget, hstep⟩
    · simpa [hstep, Outcome.write?, Argument.bare?] using h.collect hget token
    · simpa [hstep, Outcome.write?, Argument.bare?] using h.lose hget token
  | assignment name value =>
    rcases step_assignment t name value with ⟨hok, hstep⟩ | ⟨error, -, hstep⟩
    · rw [assign_eq_write] at hok
      simpa [hstep, Outcome.write?, Argument.bare?, assign_eq_write] using h.write hok
    · simpa [hstep, Outcome.write?, Argument.bare?] using h
  | malformed token => simpa [step_malformed, Outcome.write?, Argument.bare?] using h

/-- So does every run. -/
theorem Contents.run (h : Contents first bare writes t) (as : List Argument) :
    Contents first (bare ++ bareTokens as) (writes ++ (run t as).2.filterMap Outcome.write?)
      (run t as).1 := by
  induction as generalizing t bare writes with
  | nil =>
    rw [run_nil, bareTokens, List.filterMap_nil, List.filterMap_nil, List.append_nil,
      List.append_nil]
    exact h
  | cons a as ih =>
    have hrest := ih (h.step a)
    rw [List.append_assoc, List.append_assoc] at hrest
    rw [run_cons, bareTokens, filterMap_cons_toList, filterMap_cons_toList]
    exact hrest

theorem contents_outcomes (args : List String) (t : Tree) :
    Contents (start t) (bareTokens (tokens args)) (Overlay.writes args t) (outcomes args t).1 :=
  (contents_start t).run (tokens args)

/-! ### After a run -/

theorem bindsLeaf_start (t : Tree) : (start t).BindsLeaf defaultKey := by
  refine Tree.bindsLeaf_iff.mpr ⟨.list [], ?_, rfl⟩
  rw [find?_defaultKey, start, Tree.get?_insert_self]

theorem find?_start {q : String} (t : Tree) (hdefault : q ≠ defaultKey)
    (hbelow : ¬ Path.Above (Path.keys defaultKey) (Path.keys q)) :
    (start t).find? (Path.keys q) = t.find? (Path.keys q) := by
  cases hkeys : Path.keys q with
  | nil => exact absurd hkeys (Path.keys_ne_nil q)
  | cons key rest =>
    -- ways from `default` are excluded, whether they end there or lead on
    have hkey : key ≠ defaultKey := by
      rintro rfl
      rw [hkeys, keys_defaultKey] at hbelow
      cases rest with
      | nil => exact hdefault (Path.keys_injective (hkeys.trans keys_defaultKey.symm))
      | cons next rest => exact hbelow (Path.above_iff_exists.mpr ⟨next, rest, rfl⟩)
    exact Tree.find?_insert_of_ne hkey _ _ rest

/-- The path `default` stays that of a leaf, so that nothing is bound below it. -/
theorem find?_outcomes_below_defaultKey (args : List String) (t : Tree) {q : String}
    (h : Path.Above (Path.keys defaultKey) (Path.keys q)) :
    (outcomes args t).1.find? (Path.keys q) = none := by
  have hleaf : (outcomes args t).1.BindsLeaf defaultKey :=
    ((shaped_outcomes args t).leaf defaultKey).mpr (.inl (bindsLeaf_start t))
  cases hfind : (outcomes args t).1.find? (Path.keys q) with
  | none => rfl
  | some node => exact absurd (Tree.bindsTree_of_above h hfind) hleaf.not_bindsTree

/-- Above an accepted name is a tree. -/
theorem bindsTree_outcomes_of_above {args : List String} {t : Tree} {q name : String}
    (hname : name ∈ (report args t).assigned) (h : Path.Above (Path.keys q) (Path.keys name)) :
    (outcomes args t).1.BindsTree q :=
  ((shaped_outcomes args t).tree q).mpr (.inr ⟨name, hname, h⟩)

/-- What has to do neither with `default` nor with an accepted name is bound as before the run. -/
theorem find?_outcomes_of_kept {args : List String} {t : Tree} {q : String}
    (hassigned : q ∉ (report args t).assigned) (hdefault : q ≠ defaultKey)
    (hbelow : ¬ Path.Above (Path.keys defaultKey) (Path.keys q))
    (habove : ∀ name ∈ (report args t).assigned, ¬ Path.Above (Path.keys q) (Path.keys name)) :
    (outcomes args t).1.find? (Path.keys q) = t.find? (Path.keys q) := by
  rw [← map_fst_writes] at hassigned habove
  rw [(contents_outcomes args t).kept q (lastValue?_eq_none_iff.mpr hassigned) hdefault habove,
    find?_start t hdefault hbelow]

end Overlay

end ConfigLayers
