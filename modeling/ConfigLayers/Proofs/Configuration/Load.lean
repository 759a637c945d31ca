import ConfigLayers.Configuration.Basic

/-!
# What a load does

A load that finds its base document makes a new tree and new issues; one that does not leaves
neither. Both depend on the options and the arguments of the configuration alone. Of the events only
the changes of the phase are kept account of here.
-/

namespace ConfigLayers

namespace Configuration

variable {files : FileSystem} {c d : Configuration}

/-! ### The result -/

/-- The tree on which the tokens of the command line are overlaid. -/
def resolved (files : FileSystem) (c : Configuration) (base : Tree) : Tree :=
  (c.resolveModules files base).value.1

/-- The tree with the tokens of the command line overlaid, and the report on them. -/
def overlaid (files : FileSystem) (c : Configuration) (base : Tree) : Tree × Overlay.Report :=
  (Overlay.apply c.args (c.resolved files base)).value

/-- The layers on one another, and how far the load has come then. -/
theorem value_resolve_of_ok {base : Tree} (h : c.base files = .ok base) (p : Progress) :
    (c.resolve files p).value =
      (.ok (c.overlaid files base).1,
        ⟨.overlaid, (c.resolveModules files base).value.2,
          (c.overlaid files base).2.rejected⟩) := by
  rw [resolve, h]
  by_cases hmemory : c.options.inMemory
  · simp only [hmemory]
    rfl
  · simp only [hmemory]
    rfl

theorem value_resolve_of_error {error : Error} (h : c.base files = .error error) (p : Progress) :
    (c.resolve files p).value = (.error error, p) := by
  rw [resolve, h]
  rfl

/-- The configuration after a load that found its base document. -/
theorem value_load_of_ok {base : Tree} (h : c.base files = .ok base) :
    (c.load files).value =
      (.ok (), { c with
        phase := .ready
        snapshot? := some (c.overlaid files base).1
        issues := ⟨(c.resolveModules files base).value.2,
          (c.overlaid files base).2.rejected⟩ }) := by
  rw [load, Logged.value_bind, Logged.value_bind, value_resolve_of_ok h]
  rfl

/-- The configuration after a load that did not find its base document. -/
theorem value_load_of_error {error : Error} (h : c.base files = .error error) :
    (c.load files).value =
      (.error error, { c with phase := .failed, snapshot? := none, issues := .empty }) := by
  rw [load, Logged.value_bind, Logged.value_bind, value_resolve_of_error h]
  rfl

/-- A load succeeds if and only if it finds its base document. -/
theorem load_ok_iff : (c.load files).value.1 = .ok () ↔ ∃ base, c.base files = .ok base := by
  cases h : c.base files with
  | ok base => simp [value_load_of_ok h]
  | error error => simp [value_load_of_error h]

/-- Nothing of the load before survives a load. -/
theorem value_load_congr (hoptions : c.options = d.options)
    (hargs : c.processArgs = d.processArgs) : (c.load files).value = (d.load files).value := by
  obtain ⟨options, processArgs, phase, snapshot?, issues⟩ := c
  obtain ⟨_, _, phase', snapshot?', issues'⟩ := d
  obtain rfl : options = _ := hoptions
  obtain rfl : processArgs = _ := hargs
  cases h : base files ⟨options, processArgs, phase, snapshot?, issues⟩ with
  | ok t =>
    have h' : base files ⟨options, processArgs, phase', snapshot?', issues'⟩ = .ok t := h
    rw [value_load_of_ok h, value_load_of_ok h']
    rfl
  | error error =>
    have h' : base files ⟨options, processArgs, phase', snapshot?', issues'⟩ = .error error := h
    rw [value_load_of_error h, value_load_of_error h']

end Configuration

end ConfigLayers
