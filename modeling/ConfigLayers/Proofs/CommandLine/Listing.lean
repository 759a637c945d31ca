import ConfigLayers.Proofs.Configuration.ModuleFates
import ConfigLayers.Proofs.Configuration.Ordered
import ConfigLayers.Proofs.CommandLine.Exits
import ConfigLayers.Proofs.Tree.Json

/-!
# The listing of the modules

The command `modules` joins what the loaded tree has below `modules` with the failures that were
recorded before the command line was overlaid. Both are about the same modules: the name of a
document that could not be read is still a string after every overlay. So the listing has one record
for each child, which agrees with what `show` does for the module.
-/

namespace ConfigLayers.CommandLine

/-! ### Records -/

/-- What the listing says about a child of the modules. -/
inductive Standing where
  /-- A tree with so many keys. -/
  | resolved (keys : Nat)
  /-- A string, whose document could not be read for a reason. -/
  | failed (file reason : String)
  /-- A string, whose document was not asked for. -/
  | unread (file : String)
  /-- Some other leaf. -/
  | invalid (kind : Kind)

/-- The line of a record. -/
def Standing.line (name : String) : Standing → String
  | resolved keys => name ++ ": resolved (" ++ toString keys ++ " keys)"
  | failed file reason => name ++ ": unresolved (" ++ file ++ "): " ++ reason
  | unread file => name ++ ": unresolved (" ++ file ++ ")"
  | invalid kind => name ++ ": invalid (" ++ kind.name ++ ")"

variable {failures : List (String × Error)} {name : String} {child : Node}

/-- Where a child stands, by what it is and by the failures that are recorded. -/
inductive Stands (failures : List (String × Error)) (name : String) : Node → Standing → Prop
  | resolved (t : Tree) : Stands failures name (.tree t) (.resolved t.size)
  | failed (file : String) {error : Error} (h : (name, error) ∈ failures) :
      Stands failures name (.string file) (.failed file error.describe)
  | unread (file : String) (h : ∀ error, (name, error) ∉ failures) :
      Stands failures name (.string file) (.unread file)
  | invalid {leaf : Node} (htree : leaf.isTree = false) (hstring : leaf.string? = none) :
      Stands failures name leaf (.invalid leaf.kind)

/-- The record of a child. -/
def standing (failures : List (String × Error)) (name : String) : Node → Standing
  | .tree t => .resolved t.size
  | .string file =>
    match failures.lookup name with
    | some error => .failed file error.describe
    | none => .unread file
  | leaf => .invalid leaf.kind

theorem moduleLine_eq (failures : List (String × Error)) (name : String) (child : Node) :
    moduleLine failures name child = (standing failures name child).line name := by
  cases child with
  | string file =>
    cases hlookup : failures.lookup name with
    | some error =>
      simp only [moduleLine, standing, hlookup, Standing.line, String.append_assoc]
      rfl
    | none => simp only [moduleLine, standing, hlookup, Standing.line, String.append_empty]
  | _ => rfl

theorem stands_standing (h : Keyed.Ascending failures) (name : String) (child : Node) :
    Stands failures name child (standing failures name child) := by
  cases child with
  | tree t => exact .resolved t
  | string file =>
    rw [standing]
    split
    · next error hlookup => exact .failed file (h.lookup_eq_some_iff.mp hlookup)
    · next hlookup =>
      apply Stands.unread file
      intro error hmem
      rw [h.lookup_eq_some_iff.mpr hmem] at hlookup
      exact absurd hlookup (by simp)
  | _ => exact .invalid rfl rfl

/-! ### Modules that are shown -/

/-- How `show` ends for a module with a tree, and for one without. -/
inductive Shows : Option Tree → Exit → Prop
  | tree (t : Tree) : Shows (some t) ⟨0, [t.toJson.pretty], []⟩
  | nothing {exit : Exit} (h : exit.Fails) : Shows none exit

theorem Shows.code_eq_zero_iff {tree? : Option Tree} {exit : Exit} (h : Shows tree? exit) :
    exit.code = 0 ↔ ∃ t, tree? = some t := by
  cases h with
  | tree t => simp
  | nothing h => simp [h.code]

theorem shows_exit_show {files : FileSystem} {program : String} {i : Invocation}
    (h : (i.loaded files program).1 = .ok ()) (name : String) :
    Shows ((i.loaded files program).2.moduleTree? name).value
      (i.exit files program (.show (some name))) := by
  have hexit : i.exit files program (.show (some name)) =
      .ofResult (runShow (i.loaded files program).2 (some name)).value :=
    Invocation.exit_of_load_ok h _
  rw [hexit, runShow, Logged.value_bind]
  cases ((i.loaded files program).2.moduleTree? name).value with
  | some t => exact .tree t
  | none => exact .nothing (Exit.fails_ofResult_error _)

/-- The object of a tree has its keys, each once. -/
theorem exists_members_of_ordered {t : Tree} (h : t.Ordered) :
    ∃ members, t.toJson = .object members ∧ Keyed.Ascending members ∧ members.length = t.size := by
  obtain ⟨entries⟩ := t
  refine ⟨Tree.entriesToJson entries, rfl, ?_, ?_⟩
  · rw [Tree.entriesToJson_eq_map]
    exact h.ascending.map Node.toJson
  · rw [Tree.entriesToJson_eq_map, List.length_map]
    rfl

/-! ### Faithful records -/

section Stands

variable {standing : Standing} (h : Stands failures name child standing)

include h

theorem Stands.resolved_iff (keys : Nat) :
    standing = .resolved keys ↔ ∃ t, child = .tree t ∧ t.size = keys := by
  cases h with
  | resolved t => simp
  | failed file hmem => simp
  | unread file hnone => simp
  | invalid htree hstring =>
    constructor
    · rintro ⟨⟩
    · rintro ⟨t, rfl, -⟩
      exact absurd htree (by simp [Node.isTree])

theorem Stands.failed_iff (hascending : Keyed.Ascending failures) (file reason : String) :
    standing = .failed file reason ↔
      child = .string file ∧ ∃ error, (name, error) ∈ failures ∧ error.describe = reason := by
  cases h with
  | resolved t => simp
  | failed other hmem =>
    constructor
    · rintro ⟨⟩
      exact ⟨rfl, _, hmem, rfl⟩
    · rintro ⟨⟨⟩, error, hmem', rfl⟩
      rw [hascending.eq_of_mem hmem hmem']
  | unread other hnone =>
    constructor
    · rintro ⟨⟩
    · rintro ⟨-, error, hmem, -⟩
      exact absurd hmem (hnone error)
  | invalid htree hstring =>
    constructor
    · rintro ⟨⟩
    · rintro ⟨rfl, -⟩
      exact absurd hstring (by simp [Node.string?])

theorem Stands.unread_iff (file : String) :
    standing = .unread file ↔ child = .string file ∧ ∀ error, (name, error) ∉ failures := by
  cases h with
  | resolved t => simp
  | failed other hmem =>
    constructor
    · rintro ⟨⟩
    · rintro ⟨-, hnone⟩
      exact absurd hmem (hnone _)
  | unread other hnone => simp [hnone]
  | invalid htree hstring =>
    constructor
    · rintro ⟨⟩
    · rintro ⟨rfl, -⟩
      exact absurd hstring (by simp [Node.string?])

theorem Stands.invalid_iff (kind : Kind) :
    standing = .invalid kind ↔
      child.isTree = false ∧ child.string? = none ∧ child.kind = kind := by
  cases h with
  | resolved t => simp [Node.isTree]
  | failed file hmem => simp [Node.string?]
  | unread file hnone => simp [Node.string?]
  | invalid htree hstring => simp [htree, hstring]

end Stands

/-- The record of a child says what has become of it, and nothing else. -/
structure Faithful (failures : List (String × Error)) (name : String) (child : Node)
    (shown : Exit) (standing : Standing) : Prop where
  resolved_iff : (∃ keys, standing = .resolved keys) ↔ shown.code = 0
  /-- The object that is shown has as many keys as the record says. -/
  keys : ∀ keys, standing = .resolved keys → ∃ members,
    shown = ⟨0, [(Json.object members).pretty], []⟩ ∧ Keyed.Ascending members ∧
      members.length = keys
  failed_iff : (∃ file reason, standing = .failed file reason) ↔ name ∈ failures.map Prod.fst
  /-- The file is the string now bound, and the reason is the recorded one. -/
  failed_eq_iff : ∀ file reason, standing = .failed file reason ↔
    child = .string file ∧ ∃ error, (name, error) ∈ failures ∧ error.describe = reason
  unread_iff : ∀ file, standing = .unread file ↔
    child = .string file ∧ name ∉ failures.map Prod.fst
  invalid_iff : ∀ kind, standing = .invalid kind ↔
    child.isTree = false ∧ child.string? = none ∧ child.kind = kind

/-- The names of the failures. -/
theorem mem_names_iff : name ∈ failures.map Prod.fst ↔ ∃ error, (name, error) ∈ failures := by
  simp

theorem Stands.faithful {standing : Standing} {shown : Exit}
    (h : Stands failures name child standing) (hascending : Keyed.Ascending failures)
    (hfailures : ∀ error, (name, error) ∈ failures → ∃ file, child = .string file)
    (hordered : child.Ordered) (hshows : Shows child.tree? shown) :
    Faithful failures name child shown standing := by
  constructor
  · simp only [h.resolved_iff, hshows.code_eq_zero_iff, Node.tree?_eq_some_iff]
    constructor
    · rintro ⟨_, t, htree, -⟩
      exact ⟨t, htree⟩
    · rintro ⟨t, htree⟩
      exact ⟨t.size, t, htree, rfl⟩
  · intro keys hkeys
    obtain ⟨t, rfl, hsize⟩ := (h.resolved_iff keys).mp hkeys
    obtain ⟨members, hobject, hmembers, hlength⟩ := exists_members_of_ordered hordered
    cases hshows
    exact ⟨members, by rw [hobject], hmembers, hlength.trans hsize⟩
  · simp only [h.failed_iff hascending, mem_names_iff]
    constructor
    · rintro ⟨file, reason, -, error, hmem, -⟩
      exact ⟨error, hmem⟩
    · rintro ⟨error, hmem⟩
      obtain ⟨file, hfile⟩ := hfailures error hmem
      exact ⟨file, error.describe, hfile, error, hmem, rfl⟩
  · exact h.failed_iff hascending
  · simpa only [mem_names_iff, not_exists] using h.unread_iff
  · exact h.invalid_iff

/-! ### The listing -/

/-- The records are a faithful listing of the modules, for the commands of one invocation. -/
structure Lists (exit : Command → Exit) (failures : List (String × Error)) (modules : Tree)
    (records : List (String × Standing)) : Prop where
  printed : exit .modules = ⟨0, records.map fun record => record.2.line record.1, []⟩
  /-- There is one record for each child. -/
  names : records.map Prod.fst = Keyed.keys modules.entries
  ascending : (records.map Prod.fst).Pairwise fun a b => Text.bytes a < Text.bytes b
  faithful : ∀ name standing, (name, standing) ∈ records → ∃ child,
    modules.get? name = some child ∧
      Faithful failures name child (exit (.show (some name))) standing
  /-- No failure is passed over. -/
  complete : ∀ name error, (name, error) ∈ failures →
    ∃ file, (name, .failed file error.describe) ∈ records

section Loaded

variable {files : FileSystem} {program : String} {i : Invocation} {t modules : Tree}
  (h : (i.loaded files program).1 = .ok ()) (ht : (i.loaded files program).2.snapshot? = some t)
  (hmodules : t.get? modulesKey = some (.tree modules))

include h ht hmodules in
theorem exists_string_of_failure {name : String} {error : Error}
    (hfailure : (name, error) ∈ (i.loaded files program).2.issues.failedModules) :
    ∃ file, modules.get? name = some (.string file) := by
  obtain ⟨base, hbase⟩ := Configuration.load_ok_iff.mp h
  obtain ⟨file, hfile⟩ := Configuration.exists_string_of_mem_failedModules hbase hfailure
  rw [Invocation.loaded, Configuration.value_load_of_ok hbase, Option.some.injEq] at ht
  rw [ht, Modules.find?_child hmodules] at hfile
  exact ⟨file, hfile⟩

include h ht hmodules in
theorem shows_child {name : String} {child : Node} (hchild : modules.get? name = some child) :
    Shows child.tree? (i.exit files program (.show (some name))) := by
  have htree : ((i.loaded files program).2.moduleTree? name).value = child.tree? := by
    show (i.loaded files program).2.snapshot?.bind (Modules.tree? · name) = child.tree?
    rw [ht, Option.bind_some, Modules.tree?_eq_find?, Modules.find?_child hmodules, hchild,
      Option.bind_some]
  rw [← htree]
  exact shows_exit_show h name

end Loaded

/-- An invocation with an override below a module that the base document does not name. -/
def listingInvocation : Invocation :=
  ⟨.modules, false, some "conf", some "main", false, ["--modules.x.a=1"]⟩

def listingModules : Tree :=
  .ofEntries [("m", .string "doc"), ("x", .tree (.ofEntries [("a", .string "1")]))]

section Sample

open ConfigLayers.Configuration

theorem value_resolveModules_listing :
    ((listingInvocation.configuration "prog").resolveModules bareFiles sampleBase).value =
      (sampleBase, [("m", .documentMissing "conf/doc")]) := by
  have hmodules : sampleBase.get? modulesKey = some (.tree (.ofEntries [("m", .string "doc")])) :=
    rfl
  have hreferences : Modules.references (.ofEntries [("m", .string "doc")]) = [⟨"m", "doc"⟩] := rfl
  have hload : Modules.Reference.load bareFiles
      (listingInvocation.configuration "prog").confDir ⟨"m", "doc"⟩ =
        .error (.documentMissing "conf/doc") := load_bareFiles
  rw [resolveModules_of_files rfl, Modules.resolve, hmodules]
  simp only [hreferences, List.foldl_cons, List.foldl_nil, Modules.Reference.place, hload,
    List.filterMap_cons, List.filterMap_nil, Modules.Reference.failure?]
  rfl

theorem base_listing : (listingInvocation.configuration "prog").base bareFiles = .ok sampleBase :=
  base_bareFiles

theorem overlaid_listing :
    ((listingInvocation.configuration "prog").overlaid bareFiles sampleBase).1.get? modulesKey =
      some (.tree listingModules) := by
  rw [overlaid, resolved, value_resolveModules_listing]
  rfl

theorem loaded_listing :
    let c := listingInvocation.configuration "prog"
    listingInvocation.loaded bareFiles "prog" =
      (.ok (), { c with
        phase := .ready
        snapshot? := some (c.overlaid bareFiles sampleBase).1
        issues := ⟨[("m", .documentMissing "conf/doc")],
          (c.overlaid bareFiles sampleBase).2.rejected⟩ }) := by
  intro c
  rw [Invocation.loaded, value_load_of_ok base_listing, value_resolveModules_listing]

end Sample

end ConfigLayers.CommandLine
