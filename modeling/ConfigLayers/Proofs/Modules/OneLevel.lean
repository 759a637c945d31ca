import ConfigLayers.Proofs.Modules

/-!
# Modules are resolved one level deep, once

Resolving settles every child of the modules tree on its own, and touches nothing else: the tree of
a document is put in as it is, with the strings that it has below a key `modules` of its own. What
has settled stays so. A tree takes no part in a second run, and a string whose document could not be
read fails again for the same reason.
-/

namespace ConfigLayers.Modules

variable {files : FileSystem} {dir : String} {t modules : Tree}

/-! ### Settled trees -/

/-- The modules tree with every child settled. -/
def settledTree (files : FileSystem) (dir : String) (modules : Tree) : Tree :=
  .ofEntries (modules.entries.map fun entry => (entry.1, settled files dir entry.2))

@[simp] theorem keys_settledTree (files : FileSystem) (dir : String) (modules : Tree) :
    Keyed.keys (settledTree files dir modules).entries = Keyed.keys modules.entries :=
  Keyed.keys_map _ _

theorem ascending_settledTree (h : Keyed.Ascending modules.entries) :
    Keyed.Ascending (settledTree files dir modules).entries :=
  h.map _

theorem get?_settledTree (files : FileSystem) (dir : String) (modules : Tree) (name : String) :
    (settledTree files dir modules).get? name = (modules.get? name).map (settled files dir) :=
  Keyed.get?_map _ _ _

/-- A child that has settled stays as it is. -/
theorem settled_settled (files : FileSystem) (dir : String) (node : Node) :
    settled files dir (settled files dir node) = settled files dir node := by
  cases node with
  | string file =>
    cases hload : Document.load files (Path.join dir file) with
    | ok document =>
      rw [settled_of_ok hload]
      rfl
    | error error => rw [settled_of_error hload, settled_of_error hload]
  | _ => rfl

theorem settledTree_settledTree (files : FileSystem) (dir : String) (modules : Tree) :
    settledTree files dir (settledTree files dir modules) = settledTree files dir modules := by
  simp [settledTree, settled_settled]

theorem ascending_foldl_place {refs : List Reference} (h : Keyed.Ascending modules.entries) :
    Keyed.Ascending (refs.foldl (Reference.place files dir) modules).entries := by
  induction refs generalizing modules with
  | nil => exact h
  | cons r refs ih =>
    apply ih
    rw [Reference.place]
    split
    · exact h.insert _ _
    · exact h

/-- Placing one document after the other settles all children at once. -/
theorem foldl_place_eq_settledTree (h : Keyed.Ascending modules.entries) :
    (references modules).foldl (Reference.place files dir) modules =
      settledTree files dir modules := by
  have hentries := (ascending_foldl_place h).ext (ascending_settledTree h) fun name =>
    (get?_foldl_place_references h name).trans (get?_settledTree files dir modules name).symm
  generalize (references modules).foldl (Reference.place files dir) modules = placed at *
  cases placed with
  | ofEntries entries => exact congrArg Tree.ofEntries hentries

/-! ### Reasons -/

/-- Why a child of the modules tree stays a string, if its document cannot be read. -/
def reason? (files : FileSystem) (dir : String) : Node → Option Error
  | .string file =>
    match Document.load files (Path.join dir file) with
    | .ok _ => none
    | .error error => some error
  | _ => none

theorem reason?_eq_some_iff {node : Node} {error : Error} :
    reason? files dir node = some error ↔
      ∃ file, node = .string file ∧ Document.load files (Path.join dir file) = .error error := by
  cases node with
  | string file => cases hload : Document.load files (Path.join dir file) <;> simp [reason?, hload]
  | _ => simp [reason?]

/-- A child that has settled fails as it did before. -/
theorem reason?_settled (files : FileSystem) (dir : String) (node : Node) :
    reason? files dir (settled files dir node) = reason? files dir node := by
  cases node with
  | string file =>
    cases hload : Document.load files (Path.join dir file) with
    | ok document => simp [settled_of_ok hload, reason?, hload]
    | error error => rw [settled_of_error hload]
  | _ => rfl

/-- The failures among the references of a tree, read off its children. -/
theorem filterMap_failure?_references (files : FileSystem) (dir : String) (modules : Tree) :
    (references modules).filterMap (Reference.failure? files dir) =
      modules.entries.filterMap fun entry =>
        (reason? files dir entry.2).map fun error => (entry.1, error) := by
  rw [references, List.filterMap_filterMap]
  congr 1
  funext entry
  obtain ⟨name, node⟩ := entry
  cases node with
  | string file =>
    simp only [Node.string?, Option.map_some, Option.bind_some, Reference.failure?,
      Reference.load, reason?]
    cases Document.load files (Path.join dir file) <;> rfl
  | _ => rfl

/-! ### The result -/

theorem value_resolve_of_tree (files : FileSystem) (dir : String)
    (h : Keyed.Ascending modules.entries) (hget : t.get? modulesKey = some (.tree modules)) :
    (resolve files dir t).value =
      (t.insert modulesKey (.tree (settledTree files dir modules)),
        modules.entries.filterMap fun entry =>
          (reason? files dir entry.2).map fun error => (entry.1, error)) := by
  rw [resolve, hget, ← foldl_place_eq_settledTree h, ← filterMap_failure?_references]

theorem value_resolve_of_no_tree (files : FileSystem) (dir : String)
    (h : ∀ modules, t.get? modulesKey ≠ some (.tree modules)) : (resolve files dir t).value = (t, []) := by
  rw [resolve]
  split
  · rfl
  · next modules hget => exact absurd hget (h modules)
  · rfl

/-- Resolving again with the same files changes nothing and fails in the same way. -/
theorem value_resolve_resolve (files : FileSystem) (dir : String) (ht : t.Ordered) :
    (resolve files dir (resolve files dir t).value.1).value = (resolve files dir t).value := by
  by_cases hmodules : ∃ modules, t.get? modulesKey = some (.tree modules)
  · obtain ⟨modules, hget⟩ := hmodules
    have hordered : modules.Ordered := ht.of_get? hget
    have hself : (t.insert modulesKey (.tree (settledTree files dir modules))).get? modulesKey =
        some (.tree (settledTree files dir modules)) := Tree.get?_insert_self _ _ _
    rw [value_resolve_of_tree files dir hordered.ascending hget,
      value_resolve_of_tree files dir (ascending_settledTree hordered.ascending) hself,
      settledTree_settledTree, Tree.insert_of_get?_eq_some hself]
    simp [settledTree, List.filterMap_map, reason?_settled]
  · have hnone := value_resolve_of_no_tree files dir fun modules hget => hmodules ⟨modules, hget⟩
    rw [hnone, hnone]

/-! ### Every child on its own -/

/-- What becomes of a child of the modules tree, and the failure that is listed under its name. -/
inductive Settles (files : FileSystem) (dir : String) :
    Option Node → Option Node → Option Error → Prop
  | resolved {file : String} {document : Tree}
      (h : Document.load files (Path.join dir file) = .ok document) :
      Settles files dir (some (.string file)) (some (.tree document)) none
  | failed {file : String} {error : Error}
      (h : Document.load files (Path.join dir file) = .error error) :
      Settles files dir (some (.string file)) (some (.string file)) (some error)
  | kept {node : Node} (h : node.string? = none) : Settles files dir (some node) (some node) none
  | unbound : Settles files dir none none none

theorem Settles.of_ok {file : String} {document : Tree} {child : Option Node}
    {failure : Option Error} (h : Settles files dir (some (.string file)) child failure)
    (hload : Document.load files (Path.join dir file) = .ok document) :
    child = some (.tree document) ∧ failure = none := by
  cases h with
  | resolved h => simp_all
  | failed h => simp_all
  | kept h => simp [Node.string?] at h

theorem Settles.of_error {file : String} {error : Error} {child : Option Node}
    {failure : Option Error} (h : Settles files dir (some (.string file)) child failure)
    (hload : Document.load files (Path.join dir file) = .error error) :
    child = some (.string file) ∧ failure = some error := by
  cases h with
  | resolved h => simp_all
  | failed h => simp_all
  | kept h => simp [Node.string?] at h

theorem settles_settled (files : FileSystem) (dir : String) (child : Option Node) :
    Settles files dir child (child.map (settled files dir)) (child.bind (reason? files dir)) := by
  cases child with
  | none => exact .unbound
  | some node =>
    cases node with
    | string file =>
      cases hload : Document.load files (Path.join dir file) with
      | ok document =>
        simp only [Option.map_some, Option.bind_some, settled_of_ok hload, reason?, hload]
        exact .resolved hload
      | error error =>
        simp only [Option.map_some, Option.bind_some, settled_of_error hload, reason?, hload]
        exact .failed hload
    | _ => exact .kept rfl

theorem ascending_failures (ht : t.Ordered) : Keyed.Ascending (resolve files dir t).value.2 :=
  List.pairwise_map.mp (pairwise_failures ht)

/-- The failure under a name is that of the child with this name. -/
theorem get?_failures (ht : t.Ordered) (name : String) :
    Keyed.get? name (resolve files dir t).value.2 =
      (t.find? [modulesKey, name]).bind (reason? files dir) := by
  ext error
  rw [(ascending_failures ht).get?_eq_some_iff, mem_failures_iff ht, Option.bind_eq_some_iff]
  constructor
  · rintro ⟨file, hfind, hload⟩
    exact ⟨_, hfind, reason?_eq_some_iff.mpr ⟨file, rfl, hload⟩⟩
  · rintro ⟨node, hfind, hreason⟩
    obtain ⟨file, rfl, hload⟩ := reason?_eq_some_iff.mp hreason
    exact ⟨file, hfind, hload⟩

/-- File systems that agree on the document of a child settle it alike. -/
theorem settled_congr {files' : FileSystem} {node : Node}
    (h : ∀ file, node = .string file → files (Path.join dir file) = files' (Path.join dir file)) :
    settled files dir node = settled files' dir node ∧
      reason? files dir node = reason? files' dir node := by
  cases node with
  | string file => simp only [settled, reason?, Document.load_congr (h file rfl), and_self]
  | _ => exact ⟨rfl, rfl⟩

/-- What resolving makes of a tree with the given modules, and which modules fail. -/
structure OneLevel (files : FileSystem) (dir : String) (t modules resolved : Tree)
    (failures : List (String × Error)) : Prop where
  /-- No key of the root is added or removed. -/
  rootKeys : Keyed.keys resolved.entries = Keyed.keys t.entries
  /-- What is bound beside the modules stays. -/
  beside : ∀ key, key ≠ modulesKey → resolved.get? key = t.get? key
  /-- The modules stay a tree with the same names, in which each child settles on its own. -/
  children : ∃ new, resolved.get? modulesKey = some (.tree new) ∧
    Keyed.keys new.entries = Keyed.keys modules.entries ∧
    ∀ name, Settles files dir (modules.get? name) (new.get? name) (Keyed.get? name failures)
  /-- The failures stand in the order of their names, each name once. -/
  ascending : Keyed.Ascending failures

theorem oneLevel_resolve (ht : t.Ordered) (hget : t.get? modulesKey = some (.tree modules)) :
    OneLevel files dir t modules (resolve files dir t).value.1 (resolve files dir t).value.2 := by
  have hordered : modules.Ordered := ht.of_get? hget
  have hvalue := value_resolve_of_tree files dir hordered.ascending hget
  constructor
  · rw [hvalue]
    exact Keyed.keys_insert_of_get?_eq_some hget
  · intro key hkey
    exact get?_resolve_of_ne hkey
  · refine ⟨settledTree files dir modules, ?_, keys_settledTree files dir modules, ?_⟩
    · rw [hvalue, Tree.get?_insert_self]
    · intro name
      rw [get?_settledTree, get?_failures ht, find?_child hget]
      exact settles_settled files dir (modules.get? name)
  · exact ascending_failures ht

/-- Resolving leaves a tree without modules as it is. In any other one it settles the children of
the modules tree, each on its own: what becomes of a child and whether it fails depends neither on
the other children nor on their documents. A second run with the same files changes nothing and
fails in the same way. -/
theorem resolve_one_level (files : FileSystem) (dir : String) (t : Tree) (ht : t.Ordered) :
    ((∀ modules, t.get? modulesKey ≠ some (.tree modules)) →
      (resolve files dir t).value = (t, [])) ∧
    (∀ modules, t.get? modulesKey = some (.tree modules) →
      OneLevel files dir t modules (resolve files dir t).value.1 (resolve files dir t).value.2) ∧
    (∀ (files' : FileSystem) (t' : Tree) (name : String), t'.Ordered →
      t.find? [modulesKey, name] = t'.find? [modulesKey, name] →
      (∀ file, t.find? [modulesKey, name] = some (.string file) →
        files (Path.join dir file) = files' (Path.join dir file)) →
      (resolve files dir t).value.1.find? [modulesKey, name] =
          (resolve files' dir t').value.1.find? [modulesKey, name] ∧
        Keyed.get? name (resolve files dir t).value.2 =
          Keyed.get? name (resolve files' dir t').value.2) ∧
    (resolve files dir (resolve files dir t).value.1).value = (resolve files dir t).value := by
  refine ⟨value_resolve_of_no_tree files dir, fun modules hget => oneLevel_resolve ht hget, ?_,
    value_resolve_resolve files dir ht⟩
  intro files' t' name ht' hchild hdocument
  rw [find?_resolve_child ht, find?_resolve_child ht', get?_failures ht, get?_failures ht',
    ← hchild]
  cases hfind : t.find? [modulesKey, name] with
  | none => exact ⟨rfl, rfl⟩
  | some node =>
    obtain ⟨hsettled, hreason⟩ := settled_congr fun file hfile => hdocument file (hfile ▸ hfind)
    exact ⟨congrArg some hsettled, hreason⟩

/-! ### One document and one missing file -/

/-- A document with modules of its own. -/
def nestedText : String := r#"{"modules":{"x":"y"}}"#

def nestedDocument : Tree := .ofEntries [("modules", .tree (.ofEntries [("x", .string "y")]))]

def nestedFiles : FileSystem := fun path =>
  if path = "conf/doc" then .file nestedText.toUTF8 else .absent

/-- Two references, of which one leads nowhere, and a child that is none. -/
def nestedModules : Tree :=
  .ofEntries [("bad", .string "gone"), ("m", .string "doc"), ("on", .bool true)]

def nestedTree : Tree := .ofEntries [(modulesKey, .tree nestedModules), ("title", .string "base")]

theorem ordered_nestedTree : nestedTree.Ordered := by
  have hroot : Keyed.Ascending nestedTree.entries := by decide
  have hmodules : Keyed.Ascending nestedModules.entries := by decide
  exact ⟨hroot, ⟨hmodules, trivial, trivial, trivial, trivial⟩, trivial, trivial⟩

theorem load_nestedDocument :
    Document.load nestedFiles (Path.join "conf" "doc") = .ok nestedDocument := by
  have hfile : nestedFiles "conf/doc" = .file nestedText.toUTF8 := if_pos rfl
  have hformat : Format.ofPath "conf/doc" = .json := by decide
  have hpath : Path.join "conf" "doc" = "conf/doc" := by decide
  rw [hpath, Document.load_of_text _ hfile, Document.parse, hformat]
  simp only [nestedText, Json.parse?, Json.parseWithin?, String.reduceToList]
  rfl

/-- The document is put in with its own reference unresolved, the missing one fails, and a second
run finds the same. -/
theorem resolve_one_level_nested :
    nestedTree.Ordered ∧
      let result := (resolve nestedFiles "conf" nestedTree).value
      result.1.find? [modulesKey, "m"] = some (.tree nestedDocument) ∧
      result.1.find? [modulesKey, "bad"] = some (.string "gone") ∧
      Keyed.get? "bad" result.2 = some (.documentMissing "conf/gone") ∧
      (resolve nestedFiles "conf" result.1).value = result := by
  obtain ⟨-, hlevel, -, hagain⟩ :=
    resolve_one_level nestedFiles "conf" nestedTree ordered_nestedTree
  have hmodules : nestedTree.get? modulesKey = some (.tree nestedModules) := rfl
  obtain ⟨new, hnew, -, hsettles⟩ := (hlevel nestedModules hmodules).children
  have hmissing : Document.load nestedFiles (Path.join "conf" "gone") =
      .error (.documentMissing "conf/gone") := by
    have hpath : Path.join "conf" "gone" = "conf/gone" := by decide
    rw [hpath, Document.load, nestedFiles, if_neg (by decide)]
  have hm : nestedModules.get? "m" = some (.string "doc") := rfl
  have hbad : nestedModules.get? "bad" = some (.string "gone") := rfl
  have hfind := find?_child hnew
  have hdoc := hsettles "m"
  have hgone := hsettles "bad"
  rw [hm] at hdoc
  rw [hbad] at hgone
  refine ⟨ordered_nestedTree, ?_, ?_, ?_, hagain⟩
  · rw [hfind, (hdoc.of_ok load_nestedDocument).1]
  · rw [hfind, (hgone.of_error hmissing).1]
  · exact (hgone.of_error hmissing).2

end ConfigLayers.Modules
