import ConfigLayers.Proofs.Configuration.Load
import ConfigLayers.Proofs.Overlay.Run

/-!
# The life cycle of a configuration

Over any number of loads, with files that change in between, a configuration rests unloaded, ready
or failed. It is ready exactly if the last load succeeded, and then it is what a new configuration
would be after that load alone. The changes of the phase that it reports form one walk.
-/

namespace ConfigLayers

/-! ### Changes of the phase -/

namespace Phase

/-- No load is under way. -/
def Resting (p : Phase) : Prop := p = .unloaded ∨ p = .ready ∨ p = .failed

/-- The changes of the phase that there are. -/
inductive Edge : Phase → Phase → Prop
  | restart {p : Phase} (h : p.Resting) : Edge p .unloaded
  | baseLoaded : Edge .unloaded .baseLoaded
  | modulesResolved : Edge .baseLoaded .modulesResolved
  | overlaid : Edge .modulesResolved .overlaid
  | ready : Edge .overlaid .ready
  | failed : Edge .unloaded .failed

/-- Changes one after the other, each of which starts where the one before it ended. -/
inductive Walk : Phase → List (Phase × Phase) → Phase → Prop
  | nil (p : Phase) : Walk p [] p
  | cons {p q r : Phase} {changes : List (Phase × Phase)} (h : Edge p q)
      (hrest : Walk q changes r) : Walk p ((p, q) :: changes) r

theorem Walk.append {p q r : Phase} {before after : List (Phase × Phase)} (h : Walk p before q)
    (hafter : Walk q after r) : Walk p (before ++ after) r := by
  induction h with
  | nil p => exact hafter
  | cons hedge _ ih =>
    apply Walk.cons hedge
    exact ih hafter

end Phase

/-- The phases that an event leads from and to. -/
def Event.phaseChange? : Event → Option (Phase × Phase)
  | phaseChanged before after => some (before, after)
  | _ => none

/-- The changes of the phase among events, in order. -/
def phaseChanges (events : List Event) : List (Phase × Phase) :=
  events.filterMap Event.phaseChange?

@[simp] theorem phaseChanges_nil : phaseChanges [] = [] := rfl

@[simp] theorem phaseChanges_cons (event : Event) (events : List Event) :
    phaseChanges (event :: events) = event.phaseChange?.toList ++ phaseChanges events :=
  Overlay.filterMap_cons_toList _ _ _

@[simp] theorem phaseChanges_append (before after : List Event) :
    phaseChanges (before ++ after) = phaseChanges before ++ phaseChanges after :=
  List.filterMap_append

theorem phaseChanges_eq_nil {events : List Event}
    (h : ∀ event ∈ events, event.phaseChange? = none) : phaseChanges events = [] :=
  List.filterMap_eq_nil_iff.mpr h

/-- Resolving modules changes no phase. -/
theorem phaseChanges_modules (files : FileSystem) (dir : String) (t : Tree) :
    phaseChanges (Modules.resolve files dir t).events = [] := by
  rw [Modules.resolve]
  split
  · rfl
  · refine phaseChanges_eq_nil ?_
    intro event hevent
    obtain ⟨r, -, rfl⟩ := List.mem_map.mp hevent
    rw [Modules.Reference.event]
    split <;> rfl
  · rfl

/-- What becomes of a token is no change of the phase. -/
theorem Overlay.Outcome.phaseChanges_events (outcome : Outcome) :
    phaseChanges outcome.events = [] := by
  have hassignment (name value : String) : phaseChanges (assignmentEvents name value) = [] := by
    rw [assignmentEvents]
    split <;> rfl
  cases outcome with
  | assigned name value => exact hassignment name value
  | rejected name value error =>
    rw [events, phaseChanges_append, hassignment]
    rfl
  | _ => rfl

/-- Overlaying tokens changes no phase. -/
theorem phaseChanges_overlay (args : List String) (t : Tree) :
    phaseChanges (Overlay.apply args t).events = [] := by
  refine phaseChanges_eq_nil ?_
  intro event hevent
  rcases List.mem_cons.mp hevent with rfl | hevent
  · rfl
  · obtain ⟨outcome, -, hevent⟩ := List.mem_flatMap.mp hevent
    exact List.filterMap_eq_nil_iff.mp outcome.phaseChanges_events event hevent

namespace Configuration

section Load

variable {files : FileSystem} {c : Configuration}

@[simp] theorem Progress.events_advance (p : Progress) (next : Phase) :
    (p.advance next).events = [.phaseChanged p.phase next] := rfl

@[simp] theorem Progress.value_advance (p : Progress) (next : Phase) :
    (p.advance next).value = { p with phase := next } := rfl

@[simp] theorem phaseChanges_resolveModules (t : Tree) :
    phaseChanges (c.resolveModules files t).events = [] := by
  rw [resolveModules]
  split
  · rfl
  · exact phaseChanges_modules files c.confDir t

theorem phaseChanges_resolve_of_ok {base : Tree} (h : c.base files = .ok base) (p : Progress) :
    phaseChanges (c.resolve files p).events =
      [(p.phase, .baseLoaded), (.baseLoaded, .modulesResolved), (.modulesResolved, .overlaid)] := by
  rw [resolve, h]
  by_cases hmemory : c.options.inMemory
  · simp [hmemory, Event.phaseChange?, phaseChanges_overlay]
  · simp [hmemory, Event.phaseChange?, phaseChanges_overlay]

theorem phaseChanges_load_of_ok {base : Tree} (h : c.base files = .ok base) :
    phaseChanges (c.load files).events =
      [(c.phase, .unloaded), (.unloaded, .baseLoaded), (.baseLoaded, .modulesResolved),
        (.modulesResolved, .overlaid), (.overlaid, .ready)] := by
  simp [load, phaseChanges_resolve_of_ok h, value_resolve_of_ok h, Event.phaseChange?]

theorem phaseChanges_load_of_error {error : Error} (h : c.base files = .error error) :
    phaseChanges (c.load files).events = [(c.phase, .unloaded), (.unloaded, .failed)] := by
  simp [load, resolve, h, Event.phaseChange?]

/-- A load walks from where the configuration rests to where it rests next. -/
theorem walk_load (files : FileSystem) (h : c.phase.Resting) :
    Phase.Walk c.phase (phaseChanges (c.load files).events) (c.load files).value.2.phase ∧
      (c.load files).value.2.phase.Resting := by
  cases hbase : c.base files with
  | ok base =>
    rw [phaseChanges_load_of_ok hbase, value_load_of_ok hbase]
    refine ⟨?_, .inr (.inl rfl)⟩
    apply Phase.Walk.cons (.restart h)
    apply Phase.Walk.cons .baseLoaded
    apply Phase.Walk.cons .modulesResolved
    apply Phase.Walk.cons .overlaid
    apply Phase.Walk.cons .ready
    exact .nil _
  | error error =>
    rw [phaseChanges_load_of_error hbase, value_load_of_error hbase]
    refine ⟨?_, .inr (.inr rfl)⟩
    apply Phase.Walk.cons (.restart h)
    apply Phase.Walk.cons .failed
    exact .nil _

end Load

/-! ### Calls -/

/-- A call that loads a configuration, with the files as they are then. -/
inductive Call where
  | load (files : FileSystem)
  | reload (files : FileSystem)

namespace Call

/-- The files at the time of the call. -/
def files : Call → FileSystem
  | load files | reload files => files

/-- Makes the call. -/
def perform (c : Configuration) : Call → Logged Event (Except Error Unit × Configuration)
  | load files => c.load files
  | reload files => c.reload files

theorem value_perform (c : Configuration) (call : Call) :
    (call.perform c).value = (c.load call.files).value := by
  cases call <;> rfl

theorem phaseChanges_perform (c : Configuration) (call : Call) :
    phaseChanges (call.perform c).events = phaseChanges (c.load call.files).events := by
  cases call <;> rfl

end Call

/-- The configuration after calls, one after the other. -/
def after (c : Configuration) : List Call → Logged Event Configuration
  | [] => pure c
  | call :: calls => do
    let (_, c) ← call.perform c
    c.after calls

/-- The result of the last call and the configuration after it agree. -/
structure Agrees (result : Except Error Unit) (c : Configuration) : Prop where
  ready_iff : result = .ok () ↔ c.phase = .ready
  snapshot_iff : c.phase = .ready ↔ c.snapshot?.isSome
  inert : result ≠ .ok () → c.phase = .failed ∧ c.snapshot? = none ∧ c.issues = .empty

theorem agrees_load (files : FileSystem) (c : Configuration) :
    Agrees (c.load files).value.1 (c.load files).value.2 := by
  cases hbase : c.base files with
  | ok base =>
    rw [value_load_of_ok hbase]
    exact ⟨by simp, by simp, fun h => absurd rfl h⟩
  | error error =>
    rw [value_load_of_error hbase]
    exact ⟨by simp, by simp, fun _ => ⟨rfl, rfl, rfl⟩⟩

/-- No load changes what the configuration was made from. -/
theorem origin_load (files : FileSystem) (c : Configuration) :
    (c.load files).value.2.options = c.options ∧
      (c.load files).value.2.processArgs = c.processArgs := by
  cases hbase : c.base files with
  | ok base =>
    rw [value_load_of_ok hbase]
    exact ⟨rfl, rfl⟩
  | error error =>
    rw [value_load_of_error hbase]
    exact ⟨rfl, rfl⟩

theorem origin_after (c : Configuration) (calls : List Call) :
    (c.after calls).value.options = c.options ∧
      (c.after calls).value.processArgs = c.processArgs := by
  induction calls generalizing c with
  | nil => exact ⟨rfl, rfl⟩
  | cons call calls ih =>
    obtain ⟨hoptions, hargs⟩ := origin_load call.files c
    rw [after, Logged.value_bind, call.value_perform]
    obtain ⟨ihoptions, ihargs⟩ := ih (c.load call.files).value.2
    exact ⟨ihoptions.trans hoptions, ihargs.trans hargs⟩

/-- The walks of the calls join. -/
theorem walk_after {c : Configuration} (h : c.phase.Resting) (calls : List Call) :
    Phase.Walk c.phase (phaseChanges (c.after calls).events) (c.after calls).value.phase := by
  induction calls generalizing c with
  | nil => exact .nil c.phase
  | cons call calls ih =>
    obtain ⟨hwalk, hrest⟩ := walk_load call.files h
    rw [after, Logged.value_bind, Logged.events_bind, phaseChanges_append,
      call.phaseChanges_perform, call.value_perform]
    exact hwalk.append (ih hrest)

/-- A configuration starts unloaded and empty. After every call, whatever the calls before it were,
its result and the configuration agree, and both are those of the first load of a new configuration.
All changes of the phase together form one walk from the unloaded phase. -/
theorem life_cycle (processArgs : List String) (options : Options) :
    let new := ofOptions processArgs options
    (new.phase = .unloaded ∧ new.snapshot? = none ∧ new.issues = .empty) ∧
    (∀ calls (call : Call),
      let called := (call.perform (new.after calls).value).value
      Agrees called.1 called.2 ∧ called = (new.load call.files).value) ∧
    (∀ calls, Phase.Walk .unloaded (phaseChanges (new.after calls).events)
      (new.after calls).value.phase) := by
  intro new
  refine ⟨⟨rfl, rfl, rfl⟩, ?_, ?_⟩
  · intro calls call called
    -- the calls before leave only what the configuration was made from
    obtain ⟨hoptions, hargs⟩ := origin_after new calls
    have hnew : called = (new.load call.files).value :=
      (call.value_perform _).trans (value_load_congr hoptions hargs)
    rw [hnew]
    exact ⟨agrees_load call.files new, rfl⟩
  · exact walk_after (c := new) (.inl rfl)

end Configuration

end ConfigLayers
