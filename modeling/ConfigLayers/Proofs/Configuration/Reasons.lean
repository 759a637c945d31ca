import ConfigLayers.Proofs.Configuration.ModuleFates
import ConfigLayers.Proofs.Text.Lines
import ConfigLayers.Proofs.Tree.Json
import ConfigLayers.Proofs.Tree.Refusals

/-!
# Reasons on one line

What a load absorbs it gives a reason for, made of the error and its cause. A path stands in it as
it is, but for the path of an assignment with an empty segment, which is quoted. So a reason has a
line break if and only if the path has one that it names without quotes, or the parser says
something on more lines than one. The paths come from the names of files and from the names on the
command line; no other text of a document or of a token gets into a reason.
-/

namespace ConfigLayers

open Text (OneLine oneLine_append oneLine_append_left oneLine_append_right oneLine_quote)

/-! ### Errors -/

theorem ReadFault.oneLine_message (fault : ReadFault) : OneLine fault.message := by
  cases fault <;> decide

theorem Kind.oneLine_name (kind : Kind) : OneLine kind.name := by
  cases kind <;> decide

namespace Error

variable {error : Error}

/-- The path that an error names. -/
def path : Error → String
  | documentMissing path | documentUnreadable path _ | documentMalformed path _
  | rootNotObject path | notBound path | wrongFormat path _ | kindConflict path _ _
  | invalidPath path => path

/-- An error and its cause, in the words of the parser where the document at a path is malformed. -/
def describeIn (words : String → Format → String) : Error → String
  | documentMalformed path format =>
    (documentMalformed path format).message ++ ": " ++ words path format
  | error => error.describe

/-- What is said of any malformed document where the parser is not asked. -/
def plainWords (_ : String) : Format → String
  | .json => "not well-formed JSON"
  | .toml => "not well-formed TOML"

theorem describeIn_plainWords (error : Error) : error.describeIn plainWords = error.describe := by
  cases error with
  | documentMalformed path format => cases format <;> rfl
  | _ => rfl

/-- The error is one of reading the document at the path. -/
inductive OfDocument (path : String) : Error → Prop
  | missing : OfDocument path (.documentMissing path)
  | unreadable (fault : ReadFault) : OfDocument path (.documentUnreadable path fault)
  | malformed (format : Format) : OfDocument path (.documentMalformed path format)
  | noObject : OfDocument path (.rootNotObject path)

theorem OfDocument.path_eq {path : String} (h : OfDocument path error) : error.path = path := by
  cases h <;> rfl

/-- The reason for a document that cannot be read has the breaks of its path, and if the document is
malformed those of the parser's words. -/
theorem OfDocument.oneLine_describeIn_iff {path : String} (h : OfDocument path error)
    (words : String → Format → String) :
    OneLine (error.describeIn words) ↔
      OneLine path ∧
        ∀ format, error = .documentMalformed path format → OneLine (words path format) := by
  cases h with
  | missing =>
    show OneLine ("Config file not found: " ++ path) ↔ _
    rw [oneLine_append_left (by decide), and_iff_left (by simp)]
  | unreadable fault =>
    show OneLine ("Failed to read config file: " ++ path ++ ": " ++ fault.message) ↔ _
    rw [oneLine_append_right fault.oneLine_message, oneLine_append_right (by decide),
      oneLine_append_left (by decide), and_iff_left (by simp)]
  | malformed format =>
    show OneLine ("Failed to parse config file: " ++ path ++ ": " ++ words path format) ↔ _
    rw [oneLine_append, oneLine_append_right (by decide), oneLine_append_left (by decide)]
    simp
  | noObject =>
    show OneLine ("Config document root is not an object: " ++ path) ↔ _
    rw [oneLine_append_left (by decide), and_iff_left (by simp)]

theorem oneLine_describe_kindConflict (path : String) (existing attempted : Kind) :
    OneLine (kindConflict path existing attempted).describe ↔ OneLine path := by
  show OneLine ("Invalid assignment to " ++ path ++ ": would replace a " ++ existing.name ++
    " with a " ++ attempted.name) ↔ _
  rw [oneLine_append_right attempted.oneLine_name, oneLine_append_right (by decide),
    oneLine_append_right existing.oneLine_name, oneLine_append_right (by decide),
    oneLine_append_left (by decide)]

theorem oneLine_describe_invalidPath (path : String) : OneLine (invalidPath path).describe :=
  (oneLine_append_left (by decide)).mpr (oneLine_quote path)

end Error

theorem Document.ofDocument_of_load {files : FileSystem} {path : String} {error : Error}
    (h : load files path = .error error) : error.OfDocument path := by
  rw [load] at h
  split at h
  · exact Except.error.inj h ▸ .missing
  · exact Except.error.inj h ▸ .unreadable _
  · split at h
    · exact Except.error.inj h ▸ .unreadable _
    · rw [parse] at h
      split at h
      · split at h
        · exact Except.error.inj h ▸ .malformed _
        · split at h
          · exact absurd h (by simp)
          · exact Except.error.inj h ▸ .noObject
      · split at h
        · exact Except.error.inj h ▸ .malformed _
        · exact absurd h (by simp)

/-! ### Refused assignments -/

namespace Tree.Refusal

variable {t : Tree} {node : Node} {name : String} {error : Error}

/-- A refused write names its own path or a part of it from the start. -/
theorem keys_path_beginning (h : Refusal t (Path.keys name) node error) :
    Path.keys error.path <+: Path.keys name := by
  have hwhole : Path.keys (Path.dotted (Path.keys name)) <+: Path.keys name :=
    ⟨[], by rw [Path.dotted_keys, List.append_nil]⟩
  cases h with
  | segments h => exact hwhole
  | @leaf upper leaf hne hmem h =>
    have hupper : upper ≠ [] := by
      rintro rfl
      exact absurd h.bound (by simp)
    obtain ⟨part, rfl⟩ := Path.exists_path_of_above hupper h.above
    rw [Error.path, Path.dotted_keys]
    exact h.above.1
  | last hne hmem hfree hold hkind => exact hwhole

/-- A name with an empty segment is quoted in the reason, and of any other one the path that the
error names stands there as it is. -/
theorem oneLine_describe_iff (h : Refusal t (Path.keys name) node error) :
    OneLine error.describe ↔ "" ∈ Path.keys name ∨ OneLine error.path := by
  cases h with
  | segments h =>
    have hmem : "" ∈ Path.keys name := h.resolve_left (Path.keys_ne_nil name)
    exact iff_of_true (Error.oneLine_describe_invalidPath _) (.inl hmem)
  | leaf hne hmem h => rw [Error.oneLine_describe_kindConflict, or_iff_right hmem, Error.path]
  | last hne hmem => rw [Error.oneLine_describe_kindConflict, or_iff_right hmem, Error.path]

end Tree.Refusal

/-- A beginning of a path is on one line if the path is. -/
theorem Path.oneLine_beginning {part path : String} (hstart : keys part <+: keys path)
    (h : OneLine path) : OneLine part := by
  by_cases heq : keys part = keys path
  · rwa [keys_injective heq]
  · obtain ⟨rest, rfl⟩ := exists_append_of_above ⟨hstart, heq⟩
    exact (oneLine_append.mp (oneLine_append.mp h).1).1

namespace Overlay

variable {t : Tree} {name value : String} {error : Error}

/-- A token is rejected if it is an assignment whose write is refused, and for the same reason. -/
theorem refusal_of_step {a : Argument} (h : (step t a).2 = .rejected name value error) :
    Tree.Refusal t (Path.keys name) (.string value) error := by
  cases a with
  | bare token =>
    rcases step_bare t token with ⟨items, -, hstep⟩ | ⟨-, hstep⟩
    · exact absurd (hstep ▸ h) (by simp)
    · exact absurd (hstep ▸ h) (by simp)
  | assignment other text =>
    rw [step_assignment_eq] at h
    cases hresult : (t.setInPlace (Path.keys other) (.string text)).result with
    | ok _ =>
      rw [hresult] at h
      exact absurd h (by simp [Outcome.ofResult])
    | error reason =>
      rw [hresult] at h
      obtain ⟨rfl, rfl, rfl⟩ := Outcome.rejected.inj h
      obtain ⟨found, hfound⟩ := Tree.exists_refusal (by rw [hresult]; simp)
      -- the write reports the fault that is there
      rw [Tree.setInPlace_result_of_refusal hfound, Except.error.injEq] at hresult
      exact hresult ▸ hfound
  | malformed token => exact absurd h (by simp [step_malformed])

theorem exists_refusal_of_mem_run {as : List Argument}
    (h : .rejected name value error ∈ (run t as).2) :
    ∃ before, Tree.Refusal before (Path.keys name) (.string value) error := by
  induction as generalizing t with
  | nil => exact absurd h List.not_mem_nil
  | cons a as ih =>
    rw [run_cons] at h
    rcases List.mem_cons.mp h with h | h
    · exact ⟨t, refusal_of_step h.symm⟩
    · exact ih h

/-- What a report rejects a tree has refused, at some place of the run. -/
theorem exists_refusal_of_rejected {args : List String}
    (h : (name, error) ∈ (report args t).rejected) :
    ∃ before value, Tree.Refusal before (Path.keys name) (.string value) error := by
  rw [rejected_report] at h
  obtain ⟨outcome, houtcome, hrejected⟩ := List.mem_filterMap.mp h
  cases outcome with
  | rejected other value reason =>
    obtain ⟨rfl, rfl⟩ := Prod.mk.inj (Option.some.inj hrejected)
    obtain ⟨before, hrefusal⟩ := exists_refusal_of_mem_run houtcome
    exact ⟨before, value, hrefusal⟩
  | _ => exact absurd hrejected (by simp [Outcome.rejected?])

end Overlay

/-! ### Reasons of a load -/

namespace Configuration

/-- A module has failed because its document could not be read, and for the same reason. -/
theorem exists_error_of_mem_failedModules {files : FileSystem} {c : Configuration} {base : Tree}
    {name : String} {error : Error} (hbase : c.base files = .ok base)
    (h : (name, error) ∈ (c.load files).value.2.issues.failedModules) :
    ∃ file, base.find? [modulesKey, name] = some (.string file) ∧
      Document.load files (Path.join c.confDir file) = .error error := by
  rw [value_load_of_ok hbase] at h
  cases hmemory : c.options.inMemory with
  | true =>
    rw [resolveModules_of_inMemory hmemory] at h
    exact absurd h List.not_mem_nil
  | false =>
    rw [resolveModules_of_files hmemory] at h
    exact (Modules.mem_failures_iff (ordered_base hmemory hbase)).mp h

/-- After a load that succeeded the reason for a module that could not be read has the line breaks
of its path, which are those of the file name and, unless this is absolute, of the directory, and if
the document is malformed those of the parser's words. The reason for an assignment that was refused
is on one line if a segment of its name is empty, and otherwise has the breaks of the path that it
names, which is the name or a part of it from the start. -/
theorem reason_oneLine_iff (files : FileSystem) (c : Configuration)
    (words : String → Format → String) (h : (c.load files).value.1 = .ok ()) :
    ∃ base, c.base files = .ok base ∧
      let issues := (c.load files).value.2.issues
      (∀ name error, (name, error) ∈ issues.failedModules → ∃ file,
        base.find? [modulesKey, name] = some (.string file) ∧
        error.path = Path.join c.confDir file ∧
        (OneLine (error.describeIn words) ↔
          (OneLine file ∧ (file.toList.head? ≠ some '/' → OneLine c.confDir)) ∧
            ∀ format, error = .documentMalformed error.path format →
              OneLine (words error.path format))) ∧
      (∀ name error, (name, error) ∈ issues.rejectedOverrides →
        Path.keys error.path <+: Path.keys name ∧
        (OneLine error.describe ↔ "" ∈ Path.keys name ∨ OneLine error.path) ∧
        (OneLine name → OneLine error.describe)) := by
  obtain ⟨base, hbase⟩ := load_ok_iff.mp h
  refine ⟨base, hbase, ?_, ?_⟩
  · intro name error hmem
    obtain ⟨file, hfind, hload⟩ := exists_error_of_mem_failedModules hbase hmem
    have hdocument := Document.ofDocument_of_load hload
    refine ⟨file, hfind, hdocument.path_eq, ?_⟩
    rw [hdocument.path_eq, hdocument.oneLine_describeIn_iff, Path.oneLine_join_iff]
  · intro name error hmem
    rw [value_load_of_ok hbase] at hmem
    obtain ⟨before, value, hrefusal⟩ := Overlay.exists_refusal_of_rejected hmem
    have hstart := hrefusal.keys_path_beginning
    refine ⟨hstart, hrefusal.oneLine_describe_iff, ?_⟩
    intro hname
    exact hrefusal.oneLine_describe_iff.mpr (.inr (Path.oneLine_beginning hstart hname))

/-- A base tree that names a file with a line break in its name. -/
def brokenBase : Tree := .ofEntries [("modules", .tree (.ofEntries [("m", .string "x\ny")]))]

def brokenFiles : FileSystem := fun path =>
  if path = "conf/main" then .file brokenBase.toJson.compact.toUTF8 else .absent

/-- A configuration for this document, with a conflict below a name that has a line break. -/
def broken : Configuration :=
  .ofOptions [] ⟨false, some "conf", some "main", some ["prog", "--a\nb=1", "--a\nb.c=2"]⟩

theorem base_broken : broken.base brokenFiles = .ok brokenBase := by
  have hfile : brokenFiles "conf/main" = .file brokenBase.toJson.compact.toUTF8 := by
    rw [brokenFiles, if_pos rfl]
  have hformat : Format.ofPath "conf/main" = .json := by decide
  have hpath : broken.basePath = "conf/main" := by decide
  have hordered : brokenBase.Ordered := by
    simp [brokenBase, Tree.Ordered, Tree.EntriesOrdered, Node.Ordered, Keyed.Ascending]
  have hintegral : brokenBase.Integral := by
    simp [brokenBase, Tree.Integral, Tree.EntriesIntegral, Node.Integral]
  rw [Configuration.base, if_neg (by decide), hpath, Document.load_of_text _ hfile]
  exact Document.parse_write Json.Spacing.blank_compact hformat hordered hintegral (by decide)

theorem load_broken_module : (⟨"m", "x\ny"⟩ : Modules.Reference).load brokenFiles broken.confDir =
    .error (.documentMissing "conf/x\ny") := by
  have hpath : Path.join broken.confDir "x\ny" = "conf/x\ny" := by decide
  have hfile : brokenFiles "conf/x\ny" = .absent := by
    rw [brokenFiles, if_neg (by decide)]
  rw [Modules.Reference.load, hpath, Document.load, hfile]

theorem resolveModules_broken : (broken.resolveModules brokenFiles brokenBase).value =
    (brokenBase, [("m", .documentMissing "conf/x\ny")]) := by
  have hmodules : brokenBase.get? modulesKey = some (.tree (.ofEntries [("m", .string "x\ny")])) :=
    rfl
  have hreferences : Modules.references (.ofEntries [("m", .string "x\ny")]) = [⟨"m", "x\ny"⟩] :=
    rfl
  rw [resolveModules, if_neg (by decide), Modules.resolve, hmodules]
  simp only [hreferences, List.foldl_cons, List.foldl_nil, List.filterMap_cons,
    List.filterMap_nil, Modules.Reference.place, Modules.Reference.failure?, load_broken_module]
  rfl

/-- The module and the second override are absorbed. -/
theorem issues_broken : (broken.load brokenFiles).value.2.issues =
    ⟨[("m", .documentMissing "conf/x\ny")], [("a\nb.c", .kindConflict "a\nb" .string .tree)]⟩ := by
  rw [value_load_of_ok base_broken, overlaid, resolved, resolveModules_broken]
  rfl

/-- The break in the file name gets into the reason for the module, and the break in the name that
was assigned to gets into the reason for the override. -/
theorem reason_oneLine_iff_broken :
    (broken.load brokenFiles).value.1 = .ok () ∧
      ¬ OneLine (Error.documentMissing "conf/x\ny").describe ∧
      ¬ OneLine (Error.kindConflict "a\nb" .string .tree).describe := by
  have hok : (broken.load brokenFiles).value.1 = .ok () := load_ok_iff.mpr ⟨_, base_broken⟩
  obtain ⟨base, hbase, hmodules, hoverrides⟩ :=
    reason_oneLine_iff brokenFiles broken Error.plainWords hok
  obtain rfl : brokenBase = base := Except.ok.inj (base_broken.symm.trans hbase)
  rw [issues_broken] at hmodules hoverrides
  refine ⟨hok, ?_, ?_⟩
  · obtain ⟨file, hfind, -, hreason⟩ := hmodules "m" _ (List.mem_singleton.mpr rfl)
    have hfile : brokenBase.find? [modulesKey, "m"] = some (.string "x\ny") := rfl
    obtain rfl : "x\ny" = file := Node.string.inj (Option.some.inj (hfile.symm.trans hfind))
    rw [← Error.describeIn_plainWords, hreason, not_and_or, not_and_or]
    exact .inl (.inl (by decide))
  · obtain ⟨-, hreason, -⟩ := hoverrides "a\nb.c" _ (List.mem_singleton.mpr rfl)
    rw [hreason, not_or]
    exact ⟨by decide, by decide⟩

/-- So a load can succeed and give reasons on more lines than one. -/
theorem reasons_broken :
    (broken.load brokenFiles).value.1 = .ok () ∧
      let issues := (broken.load brokenFiles).value.2.issues
      Issues.reasons issues.failedModules = [("m", "Config file not found: conf/x\ny")] ∧
      Issues.reasons issues.rejectedOverrides =
        [("a\nb.c", "Invalid assignment to a\nb: would replace a string with a tree")] ∧
      ¬ OneLine "Config file not found: conf/x\ny" ∧
      ¬ OneLine "Invalid assignment to a\nb: would replace a string with a tree" := by
  rw [issues_broken]
  exact ⟨load_ok_iff.mpr ⟨_, base_broken⟩, by decide, by decide, by decide, by decide⟩

end Configuration

end ConfigLayers
