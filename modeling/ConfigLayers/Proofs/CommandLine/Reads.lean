import ConfigLayers.Proofs.Configuration.Load
import ConfigLayers.Proofs.Configuration.Reads
import ConfigLayers.Proofs.CommandLine.Exits

/-!
# Asking for a value

The command `get` prints the value that it reads, and with a default that has the type asked for it
always finds something to print. Whether it finds a value without one is what `exists` tells. Both
depend on the load of the invocation.
-/

namespace ConfigLayers.CommandLine

variable {c : Configuration} {path : String} {module? : Option String}

/-! ### Lines -/

/-- A default text has the type asked for, and its value is printed as this line. -/
inductive ValueType.Prints : ValueType → String → String → Prop
  | raw (text : String) : Prints raw text text
  | string (text : String) : Prints string text text
  | int {text : String} {n : Int} (h : Coerce.integer .i64 text = .ok n) :
      Prints int text (toString n)
  | float {text : String} {x : Extended} (h : Coerce.float text = .ok x) :
      Prints float text (x.text .plain)
  | bool {text : String} {b : Bool} (h : Coerce.boolean text = .ok b) :
      Prints bool text (if b then "true" else "false")

/-- The line of a result, if there is one. -/
def lineOf {α : Type} (print : α → String) (result : Except Error α) : Except Failure String :=
  (result.map print).mapError Failure.ofError

section Typed

variable {α : Type} [Inspect α]

/-- With a default a read prints what it prints without, or else the default. -/
theorem lineOf_read_some (convert : Conversion α) (print : α → String) (default : α) :
    lineOf print (c.read path (some default) convert module?).value =
      .ok ((lineOf print (c.read path none convert module?).value).toOption.getD
        (print default)) := by
  rw [Configuration.value_read_some, Configuration.value_read_none]
  cases c.fetch path convert module? <;> rfl

theorem value_readAndPrint_none (coerce : Coercion α) (print : α → String) :
    (readAndPrint c path module? none coerce print).value =
      lineOf print (c.getAs path none coerce module?).value := rfl

/-- The default is coerced as the value is. -/
theorem value_readAndPrint_some {coerce : Coercion α} {text : String} {value : α}
    (h : coerce text = .ok value) (print : α → String) :
    (readAndPrint c path module? (some text) coerce print).value =
      .ok ((readAndPrint c path module? none coerce print).value.toOption.getD (print value)) := by
  have hcoerced : (some text).mapM coerce = .ok (some value) := by
    rw [Option.mapM_some, h]
    rfl
  rw [value_readAndPrint_none, readAndPrint, hcoerced]
  exact lineOf_read_some (.scalar coerce) print value

/-- A default of another type ends the command, whatever the path is bound to. -/
theorem value_readAndPrint_of_unfit {coerce : Coercion α} {text : String}
    (h : ∀ value, coerce text ≠ .ok value) (print : α → String) :
    ∃ failure, (readAndPrint c path module? (some text) coerce print).value = .error failure := by
  cases hcoerce : coerce text with
  | ok value => exact absurd hcoerce (h value)
  | error reason =>
    have hcoerced : (some text).mapM coerce = .error reason := by
      rw [Option.mapM_some, hcoerce]
      rfl
    rw [readAndPrint, hcoerced]
    exact ⟨_, rfl⟩

end Typed

/-- What `get` prints with a default of the type asked for. -/
theorem value_printed_some {type : ValueType} {text line : String} (h : type.Prints text line) :
    (printed c path module? (some text) type).value =
      .ok ((printed c path module? none type).value.toOption.getD line) := by
  cases h with
  | raw => exact lineOf_read_some .node render (.string text)
  | string => exact value_readAndPrint_some rfl id
  | int h => exact value_readAndPrint_some h toString
  | float h => exact value_readAndPrint_some h (Extended.text .plain)
  | bool h => exact value_readAndPrint_some h (if · then "true" else "false")

/-- What becomes of `get` with a default that has not the type asked for. -/
theorem value_printed_of_unfit (c : Configuration) (path : String) (module? : Option String)
    {type : ValueType} {text : String} (h : ∀ line, ¬ type.Prints text line) :
    ∃ failure, (printed c path module? (some text) type).value = .error failure := by
  cases type with
  | raw => exact absurd (.raw text) (h text)
  | string => exact absurd (.string text) (h text)
  | int => exact value_readAndPrint_of_unfit (fun _ hn => h _ (.int hn)) toString
  | float => exact value_readAndPrint_of_unfit (fun _ hx => h _ (.float hx)) (Extended.text .plain)
  | bool =>
    exact value_readAndPrint_of_unfit (fun _ hb => h _ (.bool hb)) (if · then "true" else "false")

/-! ### Exits -/

/-- Without type and default `get` has a line to print if and only if the path is bound. -/
theorem exists_line_iff_isBound :
    (∃ line, (printed c path none none .raw).value = .ok line) ↔ c.isBound path = true := by
  have hline : (printed c path none none .raw).value =
      lineOf render (c.fetch path .node none) := by
    rw [← Configuration.value_read_none]
    rfl
  have hfetched := Configuration.fetched_fetch c path .node none
  rw [Configuration.isBound_iff_exists_addresses, hline]
  simp only [← Configuration.addressed?_eq_some_iff]
  -- every node converts to itself, so that only a missing one gives no line
  generalize c.addressed? path none = node?, c.fetch path .node none = result at hfetched
  cases hfetched with
  | value h => simp [lineOf, Except.map, Except.mapError]
  | unfit h => simp [Conversion.node] at h
  | missing label => simp [lineOf, Except.map, Except.mapError]

section Loaded

variable {files : FileSystem} {program : String} {i : Invocation}
  (h : (i.loaded files program).1 = .ok ())

include h

theorem exit_get (path : String) (module? default? : Option String) (type : ValueType) :
    i.exit files program (.get path module? default? type) =
      .ofLine (printed (i.loaded files program).2 path module? default? type).value := by
  rw [Invocation.exit_of_load_ok h]
  rfl

theorem exit_exists (path : String) :
    i.exit files program (.exists path) =
      if (i.loaded files program).2.isBound path then ⟨0, ["true"], []⟩
      else ⟨1, ["false"], []⟩ := by
  rw [Invocation.exit_of_load_ok h]
  rfl

end Loaded

/-- How `get` ends without a default and with one. -/
structure Answers (type : ValueType) (plain : Exit) (exitWith : String → Exit) : Prop where
  /-- It prints one line, or nothing at all. -/
  withoutDefault : (∃ line, plain = ⟨0, [line], []⟩) ∨ plain.Fails
  /-- The default is printed where there is no other line. -/
  withDefault : ∀ text line, type.Prints text line →
    exitWith text = if plain.code = 0 then plain else ⟨0, [line], []⟩
  /-- A default of another type is not accepted, whatever the path is bound to. -/
  unfitDefault : ∀ text, (∀ line, ¬ type.Prints text line) → (exitWith text).Fails

theorem answers_ofLine {type : ValueType} :
    Answers type (.ofLine (printed c path module? none type).value)
      fun text => .ofLine (printed c path module? (some text) type).value := by
  constructor
  · cases (printed c path module? none type).value with
    | ok line => exact .inl ⟨line, rfl⟩
    | error failure => exact .inr (Exit.fails_ofResult_error failure)
  · intro text line hprints
    show Exit.ofLine (printed c path module? (some text) type).value = _
    rw [value_printed_some hprints]
    cases (printed c path module? none type).value <;> rfl
  · intro text hunfit
    obtain ⟨failure, hfailure⟩ := value_printed_of_unfit c path module? hunfit
    show (Exit.ofLine (printed c path module? (some text) type).value).Fails
    rw [hfailure]
    exact Exit.fails_ofResult_error failure

/-- After a load that failed neither command prints anything, and both end with the exit code 1.
After one that succeeded `exists` says `true`, with the exit code 0, if and only if `get` finds a
value, and this is where the path leads to a node. With a default of the type asked for `get` always
prints a line: the one that it prints without, or else the default. -/
theorem get_and_exists_agree (files : FileSystem) (program : String) (i : Invocation)
    (path : String) :
    (∀ error, (i.loaded files program).1 = .error error →
      (i.exit files program (.exists path)).Fails ∧
      ∀ module? default? type,
        (i.exit files program (.get path module? default? type)).Fails) ∧
    ((i.loaded files program).1 = .ok () →
      i.exit files program (.exists path) =
          (if (i.exit files program (.get path none none .raw)).code = 0 then ⟨0, ["true"], []⟩
          else ⟨1, ["false"], []⟩) ∧
      ((i.exit files program (.get path none none .raw)).code = 0 ↔
        ∃ node, Configuration.Addresses (i.loaded files program).2 path none node) ∧
      ∀ module? type,
        Answers type (i.exit files program (.get path module? none type))
          fun text => i.exit files program (.get path module? (some text) type)) := by
  constructor
  · intro error herror
    refine ⟨Invocation.fails_exit_of_load_error herror _, ?_⟩
    intro module? default? type
    exact Invocation.fails_exit_of_load_error herror _
  · intro hload
    have hget : (i.exit files program (.get path none none .raw)).code = 0 ↔
        (i.loaded files program).2.isBound path = true := by
      rw [exit_get hload, Exit.code_ofLine_eq_zero_iff, exists_line_iff_isBound]
    refine ⟨?_, ?_, ?_⟩
    · rw [exit_exists hload]
      simp only [hget]
    · rw [hget, Configuration.isBound_iff_exists_addresses]
    · intro module? type
      simp only [exit_get hload]
      exact answers_ofLine

/-! ### Overrides without documents -/

/-- No file at all. -/
def noFiles : FileSystem := fun _ => .absent

/-- An invocation that reads no document, with two overrides. -/
def sampleInvocation : Invocation :=
  ⟨.modules, true, none, none, false, ["--port=8080", "--web.name=a"]⟩

/-- The same one with a base document. -/
def documentInvocation : Invocation := { sampleInvocation with inMemory := false }

theorem loaded_documentInvocation :
    ∃ error, (documentInvocation.loaded noFiles "prog").1 = .error error := by
  have hbase : (documentInvocation.configuration "prog").base noFiles =
      .error (.documentMissing (documentInvocation.configuration "prog").basePath) := rfl
  exact ⟨_, congrArg Prod.fst (Configuration.value_load_of_error hbase)⟩

/-- The default is printed for the unbound path alone, and nothing is without the base document. -/
theorem get_and_exists_agree_sample :
    ((sampleInvocation.loaded noFiles "prog").1 = .ok () ∧
        let exit := sampleInvocation.exit noFiles "prog"
        exit (.exists "port") = ⟨0, ["true"], []⟩ ∧
        exit (.exists "gone") = ⟨1, ["false"], []⟩ ∧
        exit (.get "port" none (some "+07") .int) = ⟨0, ["8080"], []⟩ ∧
        exit (.get "gone" none (some "+07") .int) = ⟨0, ["7"], []⟩) ∧
      (∃ error, (documentInvocation.loaded noFiles "prog").1 = .error error) ∧
      (documentInvocation.exit noFiles "prog" (.get "port" none (some "+07") .int)).Fails := by
  have hload : (sampleInvocation.loaded noFiles "prog").1 = .ok () :=
    Configuration.load_ok_iff.mpr ⟨.empty, rfl⟩
  have hdefault : ValueType.int.Prints "+07" "7" := .int (n := 7) rfl
  obtain ⟨hport, -, hanswers⟩ :=
    (get_and_exists_agree noFiles "prog" sampleInvocation "port").2 hload
  obtain ⟨hgone, -, hanswers'⟩ :=
    (get_and_exists_agree noFiles "prog" sampleInvocation "gone").2 hload
  have hline := (hanswers none .int).withDefault "+07" "7" hdefault
  have hline' := (hanswers' none .int).withDefault "+07" "7" hdefault
  obtain ⟨error, herror⟩ := loaded_documentInvocation
  obtain ⟨-, hfails⟩ :=
    (get_and_exists_agree noFiles "prog" documentInvocation "port").1 error herror
  exact ⟨⟨hload, hport.trans rfl, hgone.trans rfl, hline.trans rfl, hline'.trans rfl⟩,
    ⟨error, herror⟩, hfails none (some "+07") .int⟩

end ConfigLayers.CommandLine
