import Mathlib.Data.List.Nodup
import ConfigLayers.Proofs.Configuration.Precedence
import ConfigLayers.Proofs.Overlay.Accounts
import ConfigLayers.Proofs.Overlay.Strings
import ConfigLayers.Proofs.Text.Bytes
import ConfigLayers.Proofs.Tree.Reads

/-!
# What becomes of a module

Whether a module is resolved is decided by its document alone. The tokens of the command line change
nothing about it: they write strings, so that the tree of a resolved module stays a tree, and the
name of a document that could not be read stays a string, below which nothing can be written.
-/

namespace ConfigLayers

/-- The value that the argument assigns to the name. -/
def Argument.valueOf? (name : String) : Argument → Option String
  | assignment other value => if other = name then some value else none
  | _ => none

namespace Configuration

/-- The names of the modules that the last load could not read. -/
def failedNames (c : Configuration) : List String := c.issues.failedModules.map Prod.fst

/-- The names of the assignments that the tree refused in the last load. -/
def refusedNames (c : Configuration) : List String := c.issues.rejectedOverrides.map Prod.fst

/-- The path of a module from the root. -/
def modulePath (name : String) : String := modulesKey ++ "." ++ name

/-- The string that stands in the place of a module which could not be read: the value of the last
assignment to this place, or else the file name. Only a name that is a segment of a path can be
assigned to. -/
def leftString (c : Configuration) (name file : String) : String :=
  if name ≠ "" ∧ '.' ∉ name.toList then
    ((Overlay.tokens c.args).filterMap (Argument.valueOf? (modulePath name))).getLast?.getD file
  else file

/-- The load of `c` that led to `loaded` resolved the module with the document of the file. -/
structure ModuleResolved (files : FileSystem) (c loaded : Configuration) (name file : String) :
    Prop where
  document : ∃ document, Document.load files (Path.join c.confDir file) = .ok document
  unlisted : name ∉ loaded.failedNames
  tree : ∃ sub, (loaded.moduleTree? name).value = some sub

/-- The load of `c` that led to `loaded` could not read the document of the module. -/
structure ModuleFailed (files : FileSystem) (c loaded : Configuration) (name file : String) :
    Prop where
  document : ∃ error, Document.load files (Path.join c.confDir file) = .error error
  /-- The issues list the module once. -/
  listed : loaded.failedNames.count name = 1
  noTree : (loaded.moduleTree? name).value = none
  /-- In its place stands a string. -/
  string : ∃ t, loaded.snapshot? = some t ∧
    t.find? [modulesKey, name] = some (.string (c.leftString name file))
  /-- A path below its place is refused as often as it is assigned to. -/
  refused : '.' ∉ name.toList → ∀ r,
    loaded.refusedNames.count (modulePath name ++ "." ++ r) =
      ((Overlay.tokens c.args).filterMap Argument.name?).count (modulePath name ++ "." ++ r)
  /-- Every read inside the module finds nothing. -/
  reads : ∀ {α : Type} [Inspect α] (path : String) (default : Option α) (convert : Conversion α),
    (loaded.read path default convert (some name)).value =
      match default with
      | some value => .ok value
      | none => .error (.notBound (modulePath name ++ "." ++ path))

variable {files : FileSystem} {c : Configuration} {base : Tree} {name file : String}

/-! ### Places of modules -/

theorem keys_modulePath (h : '.' ∉ name.toList) :
    Path.keys (modulePath name) = [modulesKey, name] := by
  have hmodules : Path.keys modulesKey = [modulesKey] := by decide
  rw [modulePath, Path.keys_append, hmodules, Path.keys_of_dot_notMem h, List.singleton_append]

/-- The values assigned to the place of a module, if its name is a segment of a path. -/
theorem filterMap_valueAt? (name : String) (as : List Argument) :
    as.filterMap (Argument.valueAt? [modulesKey, name]) =
      if name ≠ "" ∧ '.' ∉ name.toList then as.filterMap (Argument.valueOf? (modulePath name))
      else [] := by
  split
  · next hname =>
    obtain ⟨hne, hdot⟩ := hname
    apply List.filterMap_congr
    intro a _
    cases a with
    | assignment other value =>
      have hkeys : Path.keys other = [modulesKey, name] ↔ other = modulePath name := by
        rw [← keys_modulePath hdot]
        exact ⟨Path.keys_injective, congrArg Path.keys⟩
      have hmem : "" ∉ [modulesKey, name] := by simp [modulesKey, Ne.symm hne]
      simp only [Argument.valueAt?, Argument.valueOf?, hkeys, hmem, not_false_eq_true, and_true]
    | _ => rfl
  · next hname =>
    apply List.filterMap_eq_nil_iff.mpr
    intro a _
    cases a with
    | assignment other value =>
      apply if_neg
      rintro ⟨hkeys, hmem⟩
      -- a segment of a path has no dot
      have hsegment : name ∈ Path.keys other := by simp [hkeys]
      exact hname ⟨fun hempty => hmem (by simp [hempty]),
        Text.sep_notMem_of_mem_segments hsegment⟩
    | _ => rfl

/-! ### After the command line -/

theorem overlaid_eq_run (files : FileSystem) (c : Configuration) (base : Tree) :
    (c.overlaid files base).1 =
      (Overlay.run (Overlay.start (c.resolved files base)) (Overlay.tokens c.args)).1 := rfl

theorem modulesKey_ne_defaultKey : modulesKey ≠ defaultKey := by decide

theorem find?_start_module (t : Tree) (name : String) :
    (Overlay.start t).find? [modulesKey, name] = t.find? [modulesKey, name] :=
  Tree.find?_insert_of_ne modulesKey_ne_defaultKey t _ [name]

/-- The tree of a module is still a tree. -/
theorem exists_tree_overlaid {document : Tree}
    (h : (c.resolved files base).find? [modulesKey, name] = some (.tree document)) :
    ∃ sub, (c.overlaid files base).1.find? [modulesKey, name] = some (.tree sub) := by
  rw [← find?_start_module] at h
  obtain ⟨new, hnew, hsort⟩ :=
    Overlay.keepsSort_run modulesKey_ne_defaultKey [name] _ (Overlay.tokens c.args) _ h
  obtain ⟨sub, rfl⟩ := Node.isTree_iff.mp hsort
  exact ⟨sub, hnew⟩

/-- A string in the place of a module is still a string. -/
theorem find?_overlaid_string
    (h : (c.resolved files base).find? [modulesKey, name] = some (.string file)) :
    (c.overlaid files base).1.find? [modulesKey, name] =
      some (.string (c.leftString name file)) := by
  rw [← find?_start_module] at h
  rw [overlaid_eq_run, Overlay.find?_run_of_string modulesKey_ne_defaultKey h, filterMap_valueAt?,
    leftString]
  split <;> rfl

/-- Below a string nothing is written: every assignment there is refused. -/
theorem count_refused (hdot : '.' ∉ name.toList) {s : String}
    (h : (c.overlaid files base).1.find? [modulesKey, name] = some (.string s)) (r : String) :
    ((c.overlaid files base).2.rejected.map Prod.fst).count (modulePath name ++ "." ++ r) =
      ((Overlay.tokens c.args).filterMap Argument.name?).count (modulePath name ++ "." ++ r) := by
  have hleaf : (c.overlaid files base).1.BindsLeaf (modulePath name) := by
    refine Tree.bindsLeaf_iff.mpr ⟨.string s, ?_, rfl⟩
    rw [keys_modulePath hdot, h]
  have hnot : modulePath name ++ "." ++ r ∉ (c.overlaid files base).2.assigned := by
    intro hassigned
    have htree := Overlay.bindsTree_outcomes_of_above hassigned (Path.above_append _ r)
    exact hleaf.not_bindsTree htree
  have hcount := Overlay.count_name
    (Overlay.forall₂_isOf (Overlay.start (c.resolved files base)) (c.args.drop 1))
    (modulePath name ++ "." ++ r)
  have hassigned := List.count_eq_zero.mpr hnot
  rw [Overlay.tokens, hcount]
  exact (Nat.add_eq_right.mpr hassigned).symm

/-! ### Reads inside a module -/

theorem value_read_of_no_tree {α : Type} [Inspect α] (h : (c.moduleTree? name).value = none)
    (path : String) (default : Option α) (convert : Conversion α) :
    (c.read path default convert (some name)).value =
      match default with
      | some value => .ok value
      | none => .error (.notBound (modulePath name ++ "." ++ path)) := by
  have hscope : c.scope? (some name) = none := h
  rw [read, hscope]
  cases default <;> rfl

/-! ### The modules after a load -/

section Load

variable (hmemory : c.options.inMemory = false) (hbase : c.base files = .ok base)

include hmemory in
theorem resolveModules_of_files (files : FileSystem) (base : Tree) :
    c.resolveModules files base = Modules.resolve files c.confDir base := by
  rw [resolveModules, if_neg (by simp [hmemory])]

include hmemory hbase in
theorem mem_failedNames_iff :
    name ∈ (c.load files).value.2.failedNames ↔
      ∃ file error, base.find? [modulesKey, name] = some (.string file) ∧
        Document.load files (Path.join c.confDir file) = .error error := by
  rw [failedNames, value_load_of_ok hbase, resolveModules_of_files hmemory]
  constructor
  · intro hmem
    obtain ⟨⟨_, error⟩, hentry, rfl⟩ := List.mem_map.mp hmem
    obtain ⟨file, hfind, hload⟩ :=
      (Modules.mem_failures_iff (ordered_base hmemory hbase)).mp hentry
    exact ⟨file, error, hfind, hload⟩
  · rintro ⟨file, error, hfind, hload⟩
    have hentry := (Modules.mem_failures_iff (ordered_base hmemory hbase)).mpr ⟨file, hfind, hload⟩
    exact List.mem_map.mpr ⟨_, hentry, rfl⟩

include hmemory hbase in
theorem pairwise_failedNames : (c.load files).value.2.failedNames.Pairwise (· < ·) := by
  rw [failedNames, value_load_of_ok hbase, resolveModules_of_files hmemory]
  exact Modules.pairwise_failures (ordered_base hmemory hbase)

include hbase in
theorem value_moduleTree?_load (name : String) :
    ((c.load files).value.2.moduleTree? name).value =
      ((c.overlaid files base).1.find? [modulesKey, name]).bind Node.tree? := by
  rw [value_load_of_ok hbase, ← Modules.tree?_eq_find?]
  rfl

include hmemory hbase in
theorem find?_resolved_module (h : base.find? [modulesKey, name] = some (.string file)) :
    (c.resolved files base).find? [modulesKey, name] =
      some (Modules.settled files c.confDir (.string file)) := by
  rw [resolved, resolveModules_of_files hmemory,
    Modules.find?_resolve_child (ordered_base hmemory hbase), h, Option.map_some]

include hmemory hbase in
theorem moduleResolved_of_document (h : base.find? [modulesKey, name] = some (.string file))
    {document : Tree} (hload : Document.load files (Path.join c.confDir file) = .ok document) :
    ModuleResolved files c (c.load files).value.2 name file := by
  have hresolved := find?_resolved_module hmemory hbase h
  rw [Modules.settled_of_ok hload] at hresolved
  obtain ⟨sub, hsub⟩ := exists_tree_overlaid hresolved
  refine ⟨⟨document, hload⟩, ?_, sub, ?_⟩
  · rw [mem_failedNames_iff hmemory hbase]
    rintro ⟨file', error, hfind, herror⟩
    rw [h, Option.some.injEq, Node.string.injEq] at hfind
    rw [← hfind, hload] at herror
    exact absurd herror (by simp)
  · rw [value_moduleTree?_load hbase, hsub]
    rfl

include hmemory hbase in
theorem moduleFailed_of_error (h : base.find? [modulesKey, name] = some (.string file))
    {error : Error} (hload : Document.load files (Path.join c.confDir file) = .error error) :
    ModuleFailed files c (c.load files).value.2 name file := by
  have hresolved := find?_resolved_module hmemory hbase h
  rw [Modules.settled_of_error hload] at hresolved
  have hstring := find?_overlaid_string hresolved
  have htree : ((c.load files).value.2.moduleTree? name).value = none := by
    rw [value_moduleTree?_load hbase, hstring]
    rfl
  constructor
  · exact ⟨error, hload⟩
  · have hnodup : (c.load files).value.2.failedNames.Nodup :=
      (pairwise_failedNames hmemory hbase).imp String.ne_of_lt
    apply List.count_eq_one_of_mem hnodup
    exact (mem_failedNames_iff hmemory hbase).mpr ⟨file, error, h, hload⟩
  · exact htree
  · rw [value_load_of_ok hbase]
    exact ⟨_, rfl, hstring⟩
  · intro hdot r
    rw [refusedNames, value_load_of_ok hbase]
    exact count_refused hdot hstring r
  · intro α _ path default convert
    exact value_read_of_no_tree htree path default convert

end Load

/-! ### Failures that are recorded -/

theorem resolveModules_of_inMemory (hmemory : c.options.inMemory = true) (files : FileSystem)
    (base : Tree) : c.resolveModules files base = pure (base, []) := by
  rw [resolveModules, if_pos hmemory]

theorem ascending_failedModules (hbase : c.base files = .ok base) :
    Keyed.Ascending (c.load files).value.2.issues.failedModules := by
  cases hmemory : c.options.inMemory with
  | true =>
    rw [value_load_of_ok hbase, resolveModules_of_inMemory hmemory]
    exact Keyed.ascending_nil
  | false => exact List.pairwise_map.mp (pairwise_failedNames hmemory hbase)

/-- A module that could not be read is bound to a string when the command line is overlaid. -/
theorem exists_string_of_mem_failedModules (hbase : c.base files = .ok base) {name : String}
    {error : Error} (h : (name, error) ∈ (c.load files).value.2.issues.failedModules) :
    ∃ file, (c.overlaid files base).1.find? [modulesKey, name] = some (.string file) := by
  cases hmemory : c.options.inMemory with
  | true =>
    rw [value_load_of_ok hbase, resolveModules_of_inMemory hmemory] at h
    exact absurd h List.not_mem_nil
  | false =>
    have hname : name ∈ (c.load files).value.2.failedNames := List.mem_map.mpr ⟨_, h, rfl⟩
    obtain ⟨file, error, hfind, hload⟩ := (mem_failedNames_iff hmemory hbase).mp hname
    have hresolved := find?_resolved_module hmemory hbase hfind
    -- resolving leaves the file name, and every overlay leaves a string
    rw [Modules.settled_of_error hload] at hresolved
    exact ⟨_, find?_overlaid_string hresolved⟩

/-! ### Fates -/

/-- After a load from files that succeeded, every module that the base document names is either
resolved, for every command line, or has failed, as its document can be read or not. Those that have
failed are listed in the order of the bytes of their names, and nothing else is listed. -/
theorem module_fates (files : FileSystem) (c : Configuration)
    (hmemory : c.options.inMemory = false) (h : (c.load files).value.1 = .ok ()) :
    ∃ base, c.base files = .ok base ∧
      let loaded := (c.load files).value.2
      (∀ name file, base.find? [modulesKey, name] = some (.string file) →
        (ModuleResolved files c loaded name file ∨ ModuleFailed files c loaded name file) ∧
          ¬ (ModuleResolved files c loaded name file ∧ ModuleFailed files c loaded name file)) ∧
      (∀ name ∈ loaded.failedNames, ∃ file,
        base.find? [modulesKey, name] = some (.string file)) ∧
      loaded.failedNames.Pairwise fun a b => Text.bytes a < Text.bytes b := by
  obtain ⟨base, hbase⟩ := load_ok_iff.mp h
  refine ⟨base, hbase, ?_, ?_, ?_⟩
  · intro name file hfind
    constructor
    · cases hload : Document.load files (Path.join c.confDir file) with
      | ok document => exact .inl (moduleResolved_of_document hmemory hbase hfind hload)
      | error error => exact .inr (moduleFailed_of_error hmemory hbase hfind hload)
    · rintro ⟨hresolved, hfailed⟩
      obtain ⟨sub, hsub⟩ := hresolved.tree
      rw [hfailed.noTree] at hsub
      exact absurd hsub (by simp)
  · intro name hname
    obtain ⟨file, -, hfind, -⟩ := (mem_failedNames_iff hmemory hbase).mp hname
    exact ⟨file, hfind⟩
  · exact (pairwise_failedNames hmemory hbase).imp Text.bytes_lt_iff.mpr

/-! ### A module without document -/

/-- The files of the sample without the document of the module. -/
def bareFiles : FileSystem := fun path =>
  if path = "conf/main" then sampleFiles path else .absent

theorem base_bareFiles : sample.base bareFiles = .ok sampleBase := by
  have hpath : sample.basePath = "conf/main" := by decide
  have hfile : bareFiles sample.basePath = sampleFiles sample.basePath := by
    rw [bareFiles, if_pos hpath]
  rw [← base_sample, base, base, Document.load_congr hfile]

/-- The document of the module is missing. -/
theorem load_bareFiles :
    Document.load bareFiles (Path.join "conf" "doc") = .error (.documentMissing "conf/doc") := by
  have hpath : Path.join "conf" "doc" = "conf/doc" := by decide
  rw [hpath, Document.load, bareFiles, if_neg (by decide)]

/-- The module keeps its file name, the override below it is refused, and reads inside it find
nothing. -/
theorem module_fates_sample :
    sample.options.inMemory = false ∧ (sample.load bareFiles).value.1 = .ok () ∧
      let loaded := (sample.load bareFiles).value.2
      loaded.failedNames.count "m" = 1 ∧
      (∃ t, loaded.snapshot? = some t ∧ t.find? ["modules", "m"] = some (.string "doc")) ∧
      loaded.refusedNames.count "modules.m.user" = 1 ∧
      (loaded.get "user" none (some "m")).value = .error (.notBound "modules.m.user") := by
  have hok : (sample.load bareFiles).value.1 = .ok () := load_ok_iff.mpr ⟨_, base_bareFiles⟩
  obtain ⟨base, hbase, hfates, -⟩ := module_fates bareFiles sample rfl hok
  obtain rfl : sampleBase = base := Except.ok.inj (base_bareFiles.symm.trans hbase)
  obtain ⟨hresolved | hfailed, -⟩ := hfates "m" "doc" rfl
  · obtain ⟨document, hdocument⟩ := hresolved.document
    exact absurd (load_bareFiles.symm.trans hdocument) (by simp)
  · have hrefused := hfailed.refused (by decide) "user"
    have hread := hfailed.reads "user" none .node
    have hpath : modulePath "m" ++ "." ++ "user" = "modules.m.user" := by decide
    rw [hpath] at hrefused hread
    exact ⟨rfl, hok, hfailed.listed, hfailed.string, hrefused.trans (by decide), hread⟩

end Configuration

end ConfigLayers
