import ConfigLayers.Proofs.Configuration.Load
import ConfigLayers.Proofs.Modules
import ConfigLayers.Proofs.Overlay.Contents

/-!
# Which layer answers a read

After a load the command line goes before the documents of the modules, and these go before the base
document. A path that the command line has nothing to do with is bound to what the document of a
module binds if it leads into one, and else to what the base document binds.
-/

namespace ConfigLayers.Configuration

/-- The names that the command line assigns with success. -/
def accepted (files : FileSystem) (c : Configuration) (base : Tree) : List String :=
  (c.overlaid files base).2.assigned

/-- The path continues in the document of a module, which the base document names by a file that can
be read. -/
def LeadsInto (files : FileSystem) (c : Configuration) (base : Tree) (q : String) (document : Tree)
    (r : String) : Prop :=
  c.options.inMemory = false ∧ ∃ name file,
    Path.keys q = [modulesKey, name] ++ Path.keys r ∧
    base.find? [modulesKey, name] = some (.string file) ∧
    Document.load files (Path.join c.confDir file) = .ok document

/-- The command line decides what the path gives. -/
def Overridden (files : FileSystem) (c : Configuration) (base : Tree) (q : String) : Prop :=
  q ∈ c.accepted files base ∨ q = defaultKey ∨ Path.Above (Path.keys defaultKey) (Path.keys q) ∨
    ∃ name ∈ c.accepted files base, Path.Above (Path.keys q) (Path.keys name)

/-- The answer to a read of the path `q` comes from the first layer that has one. -/
structure Layered (files : FileSystem) (c : Configuration) (base : Tree) (q : String)
    (answer : Except Error Node) : Prop where
  /-- An accepted name gives the value that was assigned to it last. -/
  assigned : q ∈ c.accepted files base → ∃ value,
    Overlay.lastValue? (Overlay.writes c.args (c.resolved files base)) q = some value ∧
      answer = .ok (.string value)
  /-- The path `default` gives the bare tokens. -/
  collected : q ∉ c.accepted files base → q = defaultKey →
    answer = .ok (.list ((Overlay.bareTokens (Overlay.tokens c.args)).map .string))
  /-- Below `default` nothing is bound. -/
  belowDefault : Path.Above (Path.keys defaultKey) (Path.keys q) → answer = .error (.notBound q)
  /-- Above an accepted name is a tree. -/
  above : (∃ name ∈ c.accepted files base, Path.Above (Path.keys q) (Path.keys name)) →
    ∃ sub, answer = .ok (.tree sub)
  /-- A path into the document of a module gives what this document binds. -/
  document : ¬ c.Overridden files base q → ∀ document r, c.LeadsInto files base q document r →
    answer = Tree.answer q (document.lookup r).toOption
  /-- Every other path, but for `modules` and its children, gives what the base document binds. -/
  base : ¬ c.Overridden files base q → (∀ document r, ¬ c.LeadsInto files base q document r) →
    Path.keys q ≠ [modulesKey] → (∀ name, Path.keys q ≠ [modulesKey, name]) →
    answer = base.lookup q

variable {files : FileSystem} {c : Configuration} {base : Tree}

/-- A read from the root without default looks the path up. -/
theorem value_get {t : Tree} (h : c.snapshot? = some t) (q : String) :
    (c.get q none none).value = t.lookup q := by
  rw [get, read, scope?, h]
  show (t.read q none .node).value = t.lookup q
  rw [Tree.read, Tree.fetch]
  cases t.lookup q <;> rfl

/-! ### The documents -/

theorem ordered_base (hmemory : c.options.inMemory = false) (h : c.base files = .ok base) :
    base.Ordered := by
  rw [Configuration.base, hmemory] at h
  exact Document.ordered_of_load h

/-- Into the document of a module. -/
theorem find?_resolved_of_leadsInto (h : c.base files = .ok base) {q r : String} {document : Tree}
    (hleads : c.LeadsInto files base q document r) :
    (c.resolved files base).find? (Path.keys q) = document.find? (Path.keys r) := by
  obtain ⟨hmemory, name, file, hkeys, href, hload⟩ := hleads
  rw [hkeys, resolved, resolveModules, hmemory]
  exact Modules.find?_resolve_of_document (ordered_base hmemory h) href hload (Path.keys_ne_nil r)

/-- Past the documents of modules. -/
theorem find?_resolved_of_not_leadsInto (h : c.base files = .ok base) {q : String}
    (hleads : ∀ document r, ¬ c.LeadsInto files base q document r)
    (hroot : Path.keys q ≠ [modulesKey]) (hchild : ∀ name, Path.keys q ≠ [modulesKey, name]) :
    (c.resolved files base).find? (Path.keys q) = base.find? (Path.keys q) := by
  rw [resolved, resolveModules]
  cases hmemory : c.options.inMemory with
  | true => rfl
  | false =>
    show (Modules.resolve files c.confDir base).value.1.find? (Path.keys q) = _
    cases hkeys : Path.keys q with
    | nil => exact absurd hkeys (Path.keys_ne_nil q)
    | cons key rest =>
      by_cases hkey : key = modulesKey
      · -- inside the modules tree only ways below a child are left
        subst hkey
        match rest with
        | [] => exact absurd hkeys hroot
        | [name] => exact absurd hkeys (hchild name)
        | name :: next :: rest =>
          have hrest : (next :: rest) <:+ Path.keys q := hkeys ▸ List.suffix_append [_, name] _
          obtain ⟨r, hr⟩ := Path.exists_keys_eq (List.cons_ne_nil next rest) hrest.isInfix
          refine Modules.find?_resolve_of_no_document (ordered_base hmemory h) ?_ (next :: rest)
          intro file document href hload
          exact hleads document r ⟨hmemory, name, file, by rw [hkeys, hr]; rfl, href, hload⟩
      · exact Modules.find?_resolve_of_ne hkey rest

/-! ### The command line -/

/-- What the command line has nothing to do with is bound as before it. -/
theorem find?_overlaid {q : String} (h : ¬ c.Overridden files base q) :
    (c.overlaid files base).1.find? (Path.keys q) =
      (c.resolved files base).find? (Path.keys q) := by
  rw [Overridden, not_or, not_or, not_or] at h
  obtain ⟨hassigned, hdefault, hbelow, habove⟩ := h
  exact Overlay.find?_outcomes_of_kept hassigned hdefault hbelow
    fun name hname hq => habove ⟨name, hname, hq⟩

/-- The overlaid tree answers every lookup from the first layer that has an answer. -/
theorem layered_overlaid (h : c.base files = .ok base) (q : String) :
    Layered files c base q ((c.overlaid files base).1.lookup q) := by
  have hcontents := Overlay.contents_outcomes c.args (c.resolved files base)
  have hnames := Overlay.map_fst_writes c.args (c.resolved files base)
  constructor
  · -- accepted names have a last value
    intro hassigned
    cases hlast : Overlay.lastValue? (Overlay.writes c.args (c.resolved files base)) q with
    | none =>
      have hnot := Overlay.lastValue?_eq_none_iff.mp hlast
      rw [hnames] at hnot
      exact absurd hassigned hnot
    | some value =>
      exact ⟨value, rfl, Tree.lookup_eq_ok_iff.mpr (hcontents.written q value hlast)⟩
  · rintro hassigned rfl
    rw [accepted, overlaid, ← Overlay.report, ← hnames] at hassigned
    exact Tree.lookup_eq_ok_iff.mpr
      (hcontents.collected (Overlay.lastValue?_eq_none_iff.mpr hassigned))
  · intro hbelow
    rw [Tree.lookup_eq_answer]
    exact congrArg (Tree.answer q) (Overlay.find?_outcomes_below_defaultKey _ _ hbelow)
  · rintro ⟨name, hname, habove⟩
    exact Overlay.bindsTree_outcomes_of_above hname habove
  · intro hnot document r hleads
    rw [Tree.lookup_eq_answer, find?_overlaid hnot, find?_resolved_of_leadsInto h hleads,
      Tree.toOption_lookup]
  · intro hnot hleads hroot hchild
    rw [Tree.lookup_eq_answer, find?_overlaid hnot,
      find?_resolved_of_not_leadsInto h hleads hroot hchild, Tree.lookup_eq_answer]

/-- After a load that succeeded every read from the root answers from the first layer that has an
answer: the command line, the documents of the modules, the base document. -/
theorem layered_get_of_load (files : FileSystem) (c : Configuration)
    (h : (c.load files).value.1 = .ok ()) :
    ∃ base, c.base files = .ok base ∧
      ∀ q, Layered files c base q ((c.load files).value.2.get q none none).value := by
  obtain ⟨base, hbase⟩ := load_ok_iff.mp h
  refine ⟨base, hbase, ?_⟩
  intro q
  rw [value_load_of_ok hbase, value_get rfl]
  exact layered_overlaid hbase q

/-! ### A base document with a module -/

/-- A base document that names the document of one module. -/
def sampleText : String := r#"{"modules":{"m":"doc"},"title":"base"}"#

/-- The document of the module. -/
def sampleModuleText : String := r#"{"user":"u","limit":"5"}"#

def sampleFiles : FileSystem := fun path =>
  if path = "conf/main" then .file sampleText.toUTF8
  else if path = "conf/doc" then .file sampleModuleText.toUTF8
  else .absent

/-- A configuration for these files, with an override in the module and a bare token. -/
def sample : Configuration :=
  .ofOptions [] ⟨false, some "conf", some "main", some ["prog", "--modules.m.user=x", "run"]⟩

def sampleBase : Tree :=
  .ofEntries [("modules", .tree (.ofEntries [("m", .string "doc")])), ("title", .string "base")]

def sampleDocument : Tree := .ofEntries [("limit", .string "5"), ("user", .string "u")]

theorem base_sample : sample.base sampleFiles = .ok sampleBase := by
  have hfile : sampleFiles "conf/main" = .file sampleText.toUTF8 := by
    rw [sampleFiles, if_pos rfl]
  have hformat : Format.ofPath "conf/main" = .json := by decide
  have hpath : sample.basePath = "conf/main" := by decide
  rw [Configuration.base, if_neg (by decide), hpath, Document.load_of_text _ hfile,
    Document.parse, hformat]
  simp only [sampleText, Json.parse?, Json.parseWithin?, String.reduceToList]
  rfl

theorem load_sampleDocument :
    Document.load sampleFiles (Path.join sample.confDir "doc") = .ok sampleDocument := by
  have hfile : sampleFiles "conf/doc" = .file sampleModuleText.toUTF8 := by
    rw [sampleFiles, if_neg (by decide), if_pos rfl]
  have hformat : Format.ofPath "conf/doc" = .json := by decide
  have hpath : Path.join sample.confDir "doc" = "conf/doc" := by decide
  rw [hpath, Document.load_of_text _ hfile, Document.parse, hformat]
  simp only [sampleModuleText, Json.parse?, Json.parseWithin?, String.reduceToList]
  rfl

theorem resolved_sample : sample.resolved sampleFiles sampleBase =
    .ofEntries [("modules", .tree (.ofEntries [("m", .tree sampleDocument)])),
      ("title", .string "base")] := by
  have hmodules : sampleBase.get? modulesKey = some (.tree (.ofEntries [("m", .string "doc")])) :=
    rfl
  have hreferences : Modules.references (.ofEntries [("m", .string "doc")]) = [⟨"m", "doc"⟩] := rfl
  have hplace : Modules.Reference.place sampleFiles sample.confDir
      (.ofEntries [("m", .string "doc")]) ⟨"m", "doc"⟩ =
        .ofEntries [("m", .tree sampleDocument)] := by
    rw [Modules.Reference.place, Modules.Reference.load, load_sampleDocument]
    rfl
  rw [resolved, resolveModules, if_neg (by decide), Modules.resolve, hmodules]
  simp only [hreferences, List.foldl_cons, List.foldl_nil, hplace]
  rfl

theorem accepted_sample : sample.accepted sampleFiles sampleBase = ["modules.m.user"] := by
  rw [accepted, overlaid, resolved_sample]
  rfl

/-- The override, the list of bare tokens, the rest of the module and the rest of the base document
stand side by side. -/
theorem layered_get_of_load_sample :
    (sample.load sampleFiles).value.1 = .ok () ∧
      let loaded := (sample.load sampleFiles).value.2
      (loaded.get "modules.m.user" none none).value = .ok (.string "x") ∧
      (loaded.get "default" none none).value = .ok (.list [.string "run"]) ∧
      (loaded.get "modules.m.limit" none none).value = .ok (.string "5") ∧
      (loaded.get "title" none none).value = .ok (.string "base") := by
  have hok : (sample.load sampleFiles).value.1 = .ok () := load_ok_iff.mpr ⟨_, base_sample⟩
  obtain ⟨base, hbase, hlayered⟩ := layered_get_of_load sampleFiles sample hok
  obtain rfl : sampleBase = base := Except.ok.inj (base_sample.symm.trans hbase)
  have hwrites : Overlay.writes sample.args (sample.resolved sampleFiles sampleBase) =
      [("modules.m.user", "x")] := by
    rw [resolved_sample]
    rfl
  have hkept : ∀ q ∈ ["modules.m.limit", "title"],
      ¬ sample.Overridden sampleFiles sampleBase q := by
    simp only [Overridden, accepted_sample, Path.Above, List.mem_singleton, exists_eq_left]
    decide
  refine ⟨hok, ?_, ?_, ?_, ?_⟩
  · obtain ⟨value, hlast, hget⟩ :=
      (hlayered "modules.m.user").assigned (by rw [accepted_sample]; decide)
    rw [hwrites] at hlast
    rw [hget, ← Option.some.inj hlast]
  · exact (hlayered "default").collected (by rw [accepted_sample]; decide) rfl
  · exact (hlayered "modules.m.limit").document (hkept _ (by decide)) sampleDocument "limit"
      ⟨rfl, "m", "doc", by decide, rfl, load_sampleDocument⟩
  · refine (hlayered "title").base (hkept _ (by decide)) ?_ (by decide) ?_
    · rintro document r ⟨-, name, file, hkeys, -⟩
      exact absurd (List.cons.inj hkeys).1 (by decide)
    · intro name hkeys
      exact absurd (List.cons.inj hkeys).1 (by decide)

end ConfigLayers.Configuration
