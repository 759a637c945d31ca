import ConfigLayers.Configuration.Shared
import ConfigLayers.Proofs.Configuration.LifeCycle

/-!
# The life of the shared configuration

Over any calls of a program, with files that change in between, the shared configuration is the one
that the first successful request opened, or there is none yet. Later requests give it as the loads
since then have left it, even if the last of them failed: they load nothing themselves, and do no
more than warn of options that are not those it was opened with.
-/

namespace ConfigLayers

/-- A configuration that is opened keeps the options that it is opened with. -/
theorem Configuration.options_of_opened {files : FileSystem} {processArgs : List String}
    {options : Options} {c : Configuration}
    (h : (opened files processArgs options).value = .ok c) : c.options = options := by
  rw [opened, Logged.value_bind, Logged.value_pure] at h
  cases hresult : ((ofOptions processArgs options).load files).value.1 with
  | ok _ =>
    rw [hresult] at h
    rw [← Except.ok.inj h]
    exact (origin_load files (ofOptions processArgs options)).1
  | error error =>
    rw [hresult] at h
    exact absurd h (by simp [Except.map])

namespace Shared

/-! ### Calls -/

/-- A call that has to do with the shared configuration, with the files as they are then. -/
inductive Call where
  /-- Asks for the configuration, with the options to open it with. -/
  | request (files : FileSystem) (options : Options)
  /-- Looks whether there is a configuration. -/
  | current
  /-- Loads the configuration anew, if there is one. -/
  | renew (call : Configuration.Call)

namespace Call

/-- Makes the call. -/
def perform (processArgs : List String) (shared : Shared) : Call → Logged Event Shared
  | request files options => do
    let (_, shared) ← shared.obtain files processArgs options
    return shared
  | current => pure shared
  | renew call =>
    match shared with
    | none => pure none
    | some c => do
      let (_, c) ← call.perform c
      return some c

/-- The configuration that the call opens if there is none before it. -/
def opened? (processArgs : List String) : Call → Option Configuration
  | request files options => (Configuration.opened files processArgs options).value.toOption
  | _ => none

/-- The load that the call makes of a configuration that there is before it. -/
def renewal? : Call → Option Configuration.Call
  | renew call => some call
  | _ => none

end Call

/-- The state after calls, one after the other. -/
def after (processArgs : List String) (shared : Shared) : List Call → Logged Event Shared
  | [] => pure shared
  | call :: calls => do
    let shared ← call.perform processArgs shared
    shared.after processArgs calls

/-- The loads among calls, in order. -/
def renewals (calls : List Call) : List Configuration.Call := calls.filterMap Call.renewal?

variable {processArgs : List String} {shared : Shared} {calls later : List Call} {call : Call}
  {files : FileSystem} {options : Options} {c : Configuration}

theorem value_after_cons :
    (after processArgs shared (call :: calls)).value =
      (after processArgs (call.perform processArgs shared).value calls).value := rfl

theorem value_after_append (before : List Call) :
    (after processArgs shared (before ++ calls)).value =
      (after processArgs (after processArgs shared before).value calls).value := by
  induction before generalizing shared with
  | nil => rfl
  | cons call before ih => rw [List.cons_append, value_after_cons, ih, value_after_cons]

/-! ### Before the first success -/

/-- Without a configuration a request gives what its own load gives. -/
theorem value_obtain_none :
    (obtain files processArgs options none).value =
      ((Configuration.opened files processArgs options).value,
        (Configuration.opened files processArgs options).value.toOption) := by
  rw [obtain, Logged.value_bind]
  cases (Configuration.opened files processArgs options).value <;> rfl

/-- A call leaves the configuration that it opens, and else none. -/
theorem value_perform_none :
    (call.perform processArgs none).value = call.opened? processArgs := by
  cases call with
  | request files options =>
    rw [Call.perform, Logged.value_bind, value_obtain_none]
    rfl
  | current => rfl
  | renew call => rfl

theorem value_after_none (h : ∀ call ∈ calls, call.opened? processArgs = none) :
    (after processArgs none calls).value = none := by
  induction calls with
  | nil => rfl
  | cons call calls ih =>
    obtain ⟨hcall, hcalls⟩ := List.forall_mem_cons.mp h
    rw [value_after_cons, value_perform_none, hcall, ih hcalls]

/-- Only requests open configurations, with their own options. -/
theorem eq_request_of_opened? (h : call.opened? processArgs = some c) :
    ∃ files, call = .request files c.options ∧
      (Configuration.opened files processArgs c.options).value = .ok c := by
  cases call with
  | request files options =>
    have hopened : (Configuration.opened files processArgs options).value = .ok c := by
      rw [Call.opened?] at h
      cases hvalue : (Configuration.opened files processArgs options).value with
      | ok d =>
        rw [hvalue] at h
        exact congrArg Except.ok (Option.some.inj h)
      | error error =>
        rw [hvalue] at h
        exact absurd h (by simp [Except.toOption])
    rw [Configuration.options_of_opened hopened]
    exact ⟨files, rfl, hopened⟩
  | current => exact absurd h (by simp [Call.opened?])
  | renew call => exact absurd h (by simp [Call.opened?])

/-! ### After the first success -/

/-- The result, the state after it and the events of a request for a configuration that there is. -/
theorem obtain_some :
    obtain files processArgs options (some c) =
      ⟨(.ok c, some c),
        if c.options.Same options then [] else [.optionsIgnored c.basePath options]⟩ := rfl

/-- Only loads of the configuration change it. -/
theorem value_after_some (c : Configuration) (calls : List Call) :
    (after processArgs (some c) calls).value = some (c.after (renewals calls)).value := by
  induction calls generalizing c with
  | nil => rfl
  | cons call calls ih =>
    cases call with
    | request files options => exact ih c
    | current => exact ih c
    | renew call => exact ih (call.perform c).value.2

/-! ### The whole life -/

/-- Every request among the calls has given the error of its own load and left no configuration. -/
def AllFail (processArgs : List String) (calls : List Call) : Prop :=
  ∀ before files options rest, calls = before ++ .request files options :: rest →
    ∃ error, (Configuration.opened files processArgs options).value = .error error ∧
      ((after processArgs none before).value.obtain files processArgs options).value =
        (.error error, none)

/-- No request so far has succeeded. There is no configuration, and the next request gives what its
own load gives. -/
structure Unpublished (processArgs : List String) (calls : List Call) (shared : Shared) : Prop where
  failed : AllFail processArgs calls
  empty : shared = none
  request : ∀ files options, (shared.obtain files processArgs options).value =
    match (Configuration.opened files processArgs options).value with
    | .ok c => (.ok c, some c)
    | .error error => (.error error, none)

/-- The first request that succeeded has opened `c`, and later calls have followed it. The next
request gives `c` as the loads since then have left it, and changes nothing. -/
structure Published (processArgs : List String) (calls : List Call) (shared : Shared)
    (c : Configuration) (later : List Call) : Prop where
  first : ∃ before files, calls = before ++ .request files c.options :: later ∧
    AllFail processArgs before ∧
    (Configuration.opened files processArgs c.options).value = .ok c
  renewed : shared = some (c.after (renewals later)).value
  options : (c.after (renewals later)).value.options = c.options
  request : ∀ files options, (shared.obtain files processArgs options).value =
    (.ok (c.after (renewals later)).value, shared)
  /-- There is a warning exactly if the options are other ones, and nothing else is reported. -/
  warning : ∀ files options, (shared.obtain files processArgs options).events.map Event.level =
    if c.options.Same options then [] else [.warn]

theorem allFail_of_unopened (h : ∀ call ∈ calls, call.opened? processArgs = none) :
    AllFail processArgs calls := by
  rintro before files options rest rfl
  obtain ⟨hbefore, hrest⟩ := List.forall_mem_append.mp h
  have hnone : (Configuration.opened files processArgs options).value.toOption = none :=
    hrest _ List.mem_cons_self
  rw [value_after_none hbefore, value_obtain_none]
  cases hvalue : (Configuration.opened files processArgs options).value with
  | ok c =>
    rw [hvalue] at hnone
    exact absurd hnone (by simp [Except.toOption])
  | error error => exact ⟨error, rfl, rfl⟩

theorem unpublished_of_unopened (h : ∀ call ∈ calls, call.opened? processArgs = none) :
    Unpublished processArgs calls (after processArgs none calls).value := by
  have hempty := value_after_none h
  refine ⟨allFail_of_unopened h, hempty, ?_⟩
  intro files options
  rw [hempty, value_obtain_none]
  cases (Configuration.opened files processArgs options).value <;> rfl

theorem published_of_first {before : List Call} (h : call.opened? processArgs = some c)
    (hbefore : ∀ call ∈ before, call.opened? processArgs = none) :
    let calls := before ++ call :: later
    Published processArgs calls (after processArgs none calls).value c later := by
  intro calls
  have hrenewed : (after processArgs none calls).value = some (c.after (renewals later)).value := by
    rw [value_after_append, value_after_none hbefore, value_after_cons, value_perform_none, h,
      value_after_some]
  have hoptions := (Configuration.origin_after c (renewals later)).1
  obtain ⟨files, rfl, hopened⟩ := eq_request_of_opened? h
  have hfailed := allFail_of_unopened hbefore
  refine ⟨⟨before, files, rfl, hfailed, hopened⟩, hrenewed, hoptions, ?_, ?_⟩
  · intro files options
    rw [hrenewed, obtain_some]
  · intro files options
    rw [hrenewed, obtain_some, hoptions]
    split <;> rfl

/-- After any calls of a program there is no shared configuration, since none could be opened, or it
is the one that was opened first. -/
theorem unpublished_or_published (processArgs : List String) (calls : List Call) :
    let shared := (after processArgs none calls).value
    Unpublished processArgs calls shared ∨
      ∃ c later, Published processArgs calls shared c later := by
  intro shared
  cases hfirst : calls.findSome? (Call.opened? processArgs) with
  | none => exact .inl (unpublished_of_unopened (List.findSome?_eq_none_iff.mp hfirst))
  | some c =>
    obtain ⟨before, call, later, rfl, hcall, hbefore⟩ := List.findSome?_eq_some_iff.mp hfirst
    exact .inr ⟨c, later, published_of_first hcall hbefore⟩

end Shared

end ConfigLayers
