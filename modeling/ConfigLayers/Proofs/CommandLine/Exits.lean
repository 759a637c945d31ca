import ConfigLayers.CommandLine.Run

/-!
# How commands end

All commands of an invocation load the same configuration first. Where this fails they end with the
exit code 1 and print nothing. Where it succeeds each of them ends as it does on the loaded
configuration, and a failure there is told in the same way.
-/

namespace ConfigLayers.CommandLine

/-! ### Exits -/

/-- The exit after a result: what went wrong is told on the second output alone. -/
def Exit.ofResult : Except Failure Exit → Exit
  | .ok exit => exit
  | .error failure => ⟨1, [], failure.lines⟩

/-- The exit of a command that has one line to print. -/
def Exit.ofLine (line : Except Failure String) : Exit :=
  ofResult (line.map fun text => ⟨0, [text], []⟩)

/-- The command has failed, and only the second output says why. -/
structure Exit.Fails (exit : Exit) : Prop where
  code : exit.code = 1
  out : exit.out = []

theorem Exit.code_ofLine_eq_zero_iff {line : Except Failure String} :
    (ofLine line).code = 0 ↔ ∃ text, line = .ok text := by
  cases line with
  | ok text => simp [ofLine, ofResult, Except.map]
  | error failure => simp [ofLine, ofResult, Except.map]

theorem Exit.fails_ofResult_error (failure : Failure) : (ofResult (.error failure)).Fails :=
  ⟨rfl, rfl⟩

/-! ### The load before the command -/

namespace Invocation

/-- What the load of an invocation comes to. -/
def loaded (files : FileSystem) (program : String) (i : Invocation) :
    Except Error Unit × Configuration :=
  ((i.configuration program).load files).value

/-- The exit of a command with the options and the overrides of an invocation. -/
def exit (files : FileSystem) (program : String) (i : Invocation) (command : Command) : Exit :=
  (({ i with command := command } : Invocation).run files program).value

variable {files : FileSystem} {program : String} {i : Invocation}

theorem value_openConfiguration_of_ok (h : (i.loaded files program).1 = .ok ()) :
    (openConfiguration files program i).value = .ok (i.loaded files program).2 := by
  rw [openConfiguration, Logged.value_bind, ← loaded]
  generalize i.loaded files program = result at h ⊢
  obtain ⟨_, c⟩ := result
  obtain rfl : _ = Except.ok () := h
  rfl

theorem value_openConfiguration_of_error {error : Error}
    (h : (i.loaded files program).1 = .error error) :
    ∃ failure, (openConfiguration files program i).value = .error failure := by
  rw [openConfiguration, Logged.value_bind, ← loaded]
  generalize i.loaded files program = result at h ⊢
  obtain ⟨_, c⟩ := result
  obtain rfl : _ = Except.error error := h
  exact ⟨_, rfl⟩

/-- A load that succeeds leaves the rest to the command. -/
theorem exit_of_load_ok (h : (i.loaded files program).1 = .ok ()) (command : Command) :
    i.exit files program command =
      .ofResult (command.run (i.loaded files program).2).value := by
  have hopen := value_openConfiguration_of_ok (i := { i with command := command }) h
  rw [exit, run, Logged.value_bind, hopen]
  rfl

/-- No command survives a load that fails. -/
theorem fails_exit_of_load_error {error : Error} (h : (i.loaded files program).1 = .error error)
    (command : Command) : (i.exit files program command).Fails := by
  obtain ⟨failure, hopen⟩ := value_openConfiguration_of_error (i := { i with command := command }) h
  rw [exit, run, Logged.value_bind, hopen]
  exact Exit.fails_ofResult_error failure

end Invocation

end ConfigLayers.CommandLine
