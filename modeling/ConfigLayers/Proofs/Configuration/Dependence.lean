import ConfigLayers.Proofs.Configuration.Precedence

/-!
# What a load depends on

Two file systems that agree on the base document, and on the documents that it names directly below
`modules`, cannot be told apart by a load. A document of a module names no further ones, and neither
does the command line: where the directory and the name of the base document are given, the tokens
have no part in what is read. Without documents no file matters at all.
-/

namespace ConfigLayers.Configuration

/-- The load reads the document at the path: the base document, or one that the base document names
directly below `modules`. -/
inductive Reads (files : FileSystem) (c : Configuration) : String → Prop
  | base (h : c.options.inMemory = false) : Reads files c c.basePath
  | named {base : Tree} {name file : String} (h : c.options.inMemory = false)
      (hbase : c.base files = .ok base)
      (hfind : base.find? [modulesKey, name] = some (.string file)) :
      Reads files c (Path.join c.confDir file)

/-- The configurations look for their documents in the same places. -/
structure SamePlaces (c d : Configuration) : Prop where
  inMemory : c.options.inMemory = d.options.inMemory
  confDir : c.confDir = d.confDir
  configName : c.configName = d.configName

variable {files files' : FileSystem} {c d : Configuration}

/-! ### The documents that are read -/

theorem modulePaths_of_ok {t : Tree} (h : c.base files = .ok t) :
    c.modulePaths files = (Modules.referencesOf t).map fun r => Path.join c.confDir r.file := by
  rw [modulePaths, h, Modules.referencesOf]
  cases hmodules : t.subtree? modulesKey <;> simp [hmodules]

/-- The program reads beforehand what a load reads: the base document, and then the documents of the
modules. -/
theorem reads_iff (hmemory : c.options.inMemory = false) {path : String} :
    c.Reads files path ↔ path = c.basePath ∨ path ∈ c.modulePaths files := by
  constructor
  · intro hreads
    cases hreads with
    | base => exact .inl rfl
    | @named t name file _ hbase hfind =>
      have href : ⟨name, file⟩ ∈ Modules.referencesOf t :=
        (Modules.mem_referencesOf_iff (ordered_base hmemory hbase)).mpr hfind
      rw [modulePaths_of_ok hbase]
      exact .inr (List.mem_map.mpr ⟨_, href, rfl⟩)
  · rintro (rfl | hpath)
    · exact .base hmemory
    · cases hbase : c.base files with
      | ok t =>
        rw [modulePaths_of_ok hbase] at hpath
        obtain ⟨r, hr, rfl⟩ := List.mem_map.mp hpath
        exact .named hmemory hbase
          ((Modules.mem_referencesOf_iff (ordered_base hmemory hbase)).mp hr)
      | error error =>
        rw [modulePaths, hbase] at hpath
        exact absurd hpath List.not_mem_nil

theorem not_reads_of_inMemory (h : c.options.inMemory = true) (path : String) :
    ¬ c.Reads files path := by
  intro hreads
  cases hreads with
  | base hmemory => simp [h] at hmemory
  | named hmemory => simp [h] at hmemory

/-! ### Other files -/

theorem base_congr (h : ∀ path, c.Reads files path → files path = files' path) :
    c.base files = c.base files' := by
  cases hmemory : c.options.inMemory with
  | true => rw [base, base, if_pos hmemory, if_pos hmemory]
  | false =>
    have hfile : files c.basePath = files' c.basePath := h _ (.base hmemory)
    rw [base, base, Document.load_congr hfile]

theorem resolveModules_congr (h : ∀ path, c.Reads files path → files path = files' path)
    {t : Tree} (hbase : c.base files = .ok t) :
    c.resolveModules files t = c.resolveModules files' t := by
  cases hmemory : c.options.inMemory with
  | true => rw [resolveModules, resolveModules, if_pos hmemory, if_pos hmemory]
  | false =>
    have hfiles : ∀ r ∈ Modules.referencesOf t,
        files (Path.join c.confDir r.file) = files' (Path.join c.confDir r.file) := by
      intro r hr
      have hfind := (Modules.mem_referencesOf_iff (ordered_base hmemory hbase)).mp hr
      exact h _ (.named hmemory hbase hfind)
    rw [resolveModules, resolveModules, Modules.resolve_congr hfiles]

/-- A load gives and reports the same for files that agree on what it reads. -/
theorem load_congr (h : ∀ path, c.Reads files path → files path = files' path) :
    c.load files = c.load files' := by
  have hresolve : c.resolve files = c.resolve files' := by
    funext p
    rw [resolve, resolve, ← base_congr h]
    cases hbase : c.base files with
    | ok t => simp only [resolveModules_congr h hbase]
    | error error => rfl
  rw [load, load, hresolve]

theorem value_load_of_inMemory (h : c.options.inMemory = true) :
    (c.load files).value.1 = .ok () ∧ (c.load files).value.2.issues.failedModules = [] := by
  have hbase : c.base files = .ok .empty := by rw [base, if_pos h]
  rw [value_load_of_ok hbase, resolveModules, if_pos h]
  exact ⟨rfl, rfl⟩

/-! ### Another command line -/

namespace SamePlaces

theorem symm (h : SamePlaces c d) : SamePlaces d c :=
  ⟨h.inMemory.symm, h.confDir.symm, h.configName.symm⟩

theorem base_eq (h : SamePlaces c d) (files : FileSystem) : c.base files = d.base files := by
  rw [base, base, basePath, basePath, h.inMemory, h.confDir, h.configName]

theorem resolveModules_eq (h : SamePlaces c d) (files : FileSystem) (t : Tree) :
    c.resolveModules files t = d.resolveModules files t := by
  rw [resolveModules, resolveModules, h.inMemory, h.confDir]

theorem reads (h : SamePlaces c d) {path : String} (hreads : c.Reads files path) :
    d.Reads files path := by
  cases hreads with
  | base hmemory =>
    rw [h.inMemory] at hmemory
    rw [basePath, h.confDir, h.configName]
    exact .base hmemory
  | named hmemory hbase hfind =>
    rw [h.inMemory] at hmemory
    rw [h.base_eq] at hbase
    rw [h.confDir]
    exact .named hmemory hbase hfind

/-- Both loads succeed or fail alike, and the same modules cannot be read. -/
theorem load_alike (h : SamePlaces c d) (files : FileSystem) :
    (c.load files).value.1 = (d.load files).value.1 ∧
      (c.load files).value.2.issues.failedModules =
        (d.load files).value.2.issues.failedModules := by
  cases hbase : c.base files with
  | ok t =>
    have hbase' : d.base files = .ok t := (h.base_eq files).symm.trans hbase
    rw [value_load_of_ok hbase, value_load_of_ok hbase']
    exact ⟨rfl, congrArg (·.value.2) (h.resolveModules_eq files t)⟩
  | error error =>
    have hbase' : d.base files = .error error := (h.base_eq files).symm.trans hbase
    rw [value_load_of_error hbase, value_load_of_error hbase']
    exact ⟨rfl, rfl⟩

/-- Places that are given do not depend on the arguments. -/
theorem of_explicit {inMemory : Bool} {dir name : String} {args args' : Option (List String)}
    (hc : c.options = ⟨inMemory, some dir, some name, args⟩)
    (hd : d.options = ⟨inMemory, some dir, some name, args'⟩) : SamePlaces c d := by
  constructor
  · rw [hc, hd]
  · rw [Configuration.confDir, Configuration.confDir, hc, hd]
    rfl
  · rw [Configuration.configName, Configuration.configName, hc, hd]

end SamePlaces

/-- Loads from files that agree on what is read lead to the same. In memory nothing is read, and the
load succeeds. Where the places of the documents are given, the arguments change neither whether the
load succeeds nor which modules fail nor what is read. -/
theorem load_dependence (files : FileSystem) (c : Configuration) :
    (∀ (files' : FileSystem) (d : Configuration), d.options = c.options →
      d.processArgs = c.processArgs → (∀ path, c.Reads files path → files path = files' path) →
      (d.load files').value = (c.load files).value) ∧
    (c.options.inMemory = true →
      (∀ files', c.load files' = c.load files) ∧ (c.load files).value.1 = .ok () ∧
        (c.load files).value.2.issues.failedModules = []) ∧
    (∀ (d : Configuration) (inMemory : Bool) (dir name : String) (args args' : Option (List String)),
      c.options = ⟨inMemory, some dir, some name, args⟩ →
      d.options = ⟨inMemory, some dir, some name, args'⟩ →
      (d.load files).value.1 = (c.load files).value.1 ∧
      (d.load files).value.2.issues.failedModules =
        (c.load files).value.2.issues.failedModules ∧
      ∀ path, d.Reads files path ↔ c.Reads files path) := by
  refine ⟨?_, ?_, ?_⟩
  · intro files' d hoptions hargs h
    rw [load_congr h]
    exact value_load_congr hoptions hargs
  · intro hmemory
    refine ⟨?_, value_load_of_inMemory hmemory⟩
    intro files'
    apply load_congr
    intro path hreads
    exact absurd hreads (not_reads_of_inMemory hmemory path)
  · intro d inMemory dir name args args' hc hd
    have hsame : SamePlaces d c := .of_explicit hd hc
    obtain ⟨hresult, hfailed⟩ := hsame.load_alike files
    exact ⟨hresult, hfailed, fun path => ⟨hsame.reads, hsame.symm.reads⟩⟩

/-! ### An override that names another document -/

/-- The files of the sample and one more document. -/
def strayFiles : FileSystem := fun path =>
  if path = "conf/other.json" then .file sampleModuleText.toUTF8 else sampleFiles path

/-- The sample with an override that gives the module another file name. -/
def redirected : Configuration :=
  .ofOptions [] ⟨false, some "conf", some "main", some ["prog", "--modules.m=other.json"]⟩

/-- The sample without documents. -/
def bare : Configuration := .ofOptions [] ⟨true, some "conf", some "main", some ["prog"]⟩

theorem strayFiles_of_reads {path : String} (h : redirected.Reads sampleFiles path) :
    sampleFiles path = strayFiles path := by
  have hpath : path ≠ "conf/other.json" := by
    cases h with
    | base => decide
    | @named base name file hmemory hbase hfind =>
      have hsame : SamePlaces sample redirected := .of_explicit rfl rfl
      have hsample : redirected.base sampleFiles = .ok sampleBase :=
        (hsame.base_eq sampleFiles).symm.trans base_sample
      have href := (Modules.mem_referencesOf_iff (r := ⟨name, file⟩)
        (ordered_base hmemory hbase)).mpr hfind
      obtain rfl : base = sampleBase := Except.ok.inj (hbase.symm.trans hsample)
      have hreferences : Modules.referencesOf sampleBase = [⟨"m", "doc"⟩] := rfl
      rw [hreferences, List.mem_singleton, Modules.Reference.mk.injEq] at href
      rw [href.2]
      decide
  rw [strayFiles, if_neg hpath]

/-- The document that the override names is not read. -/
theorem load_dependence_sample :
    strayFiles "conf/other.json" ≠ sampleFiles "conf/other.json" ∧
      (redirected.load strayFiles).value = (redirected.load sampleFiles).value ∧
      (redirected.load sampleFiles).value.1 = (sample.load sampleFiles).value.1 ∧
      bare.options.inMemory = true ∧ bare.load strayFiles = bare.load sampleFiles := by
  obtain ⟨hfiles, -, -⟩ := load_dependence sampleFiles redirected
  obtain ⟨-, -, hargs⟩ := load_dependence sampleFiles sample
  obtain ⟨-, hmemory, -⟩ := load_dependence sampleFiles bare
  refine ⟨?_, ?_, ?_, rfl, (hmemory rfl).1 strayFiles⟩
  · rw [strayFiles, if_pos rfl, sampleFiles, if_neg (by decide), if_neg (by decide)]
    exact Entry.noConfusion
  · exact hfiles strayFiles redirected rfl rfl fun path => strayFiles_of_reads
  · exact (hargs redirected false "conf" "main" _ _ rfl rfl).1

end ConfigLayers.Configuration
