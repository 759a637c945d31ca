import Mathlib.Data.List.Basic
import ConfigLayers.Proofs.Documents
import ConfigLayers.Proofs.Tree.Writes
import ConfigLayers.Modules

/-!
# What resolving modules changes

The references of an ascending modules tree have different names, so that the documents are placed
independently of one another: a string whose document can be read becomes the tree of it, and every
other child stays as it is. Nothing outside the modules tree changes. The strings whose documents
cannot be read are the modules that fail, and no other files matter than these documents.
-/

namespace ConfigLayers.Modules

variable {files : FileSystem} {dir : String} {modules : Tree} {refs : List Reference}

/-! ### References -/

theorem mem_references {r : Reference} :
    r ∈ references modules ↔ (r.name, Node.string r.file) ∈ modules.entries := by
  rw [references, List.mem_filterMap]
  constructor
  · rintro ⟨⟨name, node⟩, hentry, hr⟩
    obtain ⟨file, hfile, rfl⟩ := Option.map_eq_some_iff.mp hr
    obtain rfl : node = .string file := Node.string?_eq_some_iff.mp hfile
    exact hentry
  · intro hentry
    exact ⟨_, hentry, rfl⟩

/-- The references of an ascending tree are its strings. -/
theorem mem_references_iff (h : Keyed.Ascending modules.entries) {r : Reference} :
    r ∈ references modules ↔ modules.get? r.name = some (.string r.file) := by
  rw [mem_references, Tree.get?, h.get?_eq_some_iff]

/-- References stand in the order of their names. -/
theorem pairwise_references (h : Keyed.Ascending modules.entries) :
    (references modules).Pairwise fun r s => r.name < s.name := by
  apply List.Pairwise.filterMap _ _ h
  intro a b hab r hr s hs
  obtain ⟨_, -, rfl⟩ := Option.map_eq_some_iff.mp hr
  obtain ⟨_, -, rfl⟩ := Option.map_eq_some_iff.mp hs
  exact hab

/-! ### Placing documents -/

/-- What a child of the modules tree becomes. -/
def settled (files : FileSystem) (dir : String) : Node → Node
  | .string file =>
    match Document.load files (Path.join dir file) with
    | .ok document => .tree document
    | .error _ => .string file
  | node => node

theorem settled_of_ok {file : String} {document : Tree}
    (h : Document.load files (Path.join dir file) = .ok document) :
    settled files dir (.string file) = .tree document := by
  rw [settled, h]

theorem settled_of_error {file : String} {error : Error}
    (h : Document.load files (Path.join dir file) = .error error) :
    settled files dir (.string file) = .string file := by
  rw [settled, h]

theorem get?_place_of_ne {name : String} {r : Reference} (h : name ≠ r.name) :
    (r.place files dir modules).get? name = modules.get? name := by
  rw [Reference.place]
  split
  · exact Tree.get?_insert_of_ne h _ _
  · rfl

theorem get?_place_self {r : Reference} (h : modules.get? r.name = some (.string r.file)) :
    (r.place files dir modules).get? r.name = some (settled files dir (.string r.file)) := by
  rw [Reference.place]
  split
  · next document hload => rw [Tree.get?_insert_self, settled_of_ok hload]
  · next error hload => rw [settled_of_error hload, h]

/-- A name without a reference keeps its node. -/
theorem get?_foldl_place_of_forall_ne {name : String} (h : ∀ r ∈ refs, name ≠ r.name) :
    (refs.foldl (Reference.place files dir) modules).get? name = modules.get? name := by
  induction refs generalizing modules with
  | nil => rfl
  | cons r refs ih =>
    obtain ⟨hr, hrefs⟩ := List.forall_mem_cons.mp h
    rw [List.foldl_cons, ih hrefs, get?_place_of_ne hr]

/-- Each of several references with different names settles as if it were the only one. -/
theorem get?_foldl_place_of_mem (hlt : refs.Pairwise fun r s => r.name < s.name) {r : Reference}
    (hr : r ∈ refs) (hget : modules.get? r.name = some (.string r.file)) :
    (refs.foldl (Reference.place files dir) modules).get? r.name =
      some (settled files dir (.string r.file)) := by
  induction refs generalizing modules with
  | nil => exact absurd hr List.not_mem_nil
  | cons first refs ih =>
    obtain ⟨hfirst, hrefs⟩ := List.pairwise_cons.mp hlt
    rw [List.foldl_cons]
    rcases List.mem_cons.mp hr with rfl | hr
    · -- it settles now, and none of the others has its name
      rw [get?_foldl_place_of_forall_ne fun s hs => String.ne_of_lt (hfirst s hs)]
      exact get?_place_self hget
    · have hne : r.name ≠ first.name := by
        intro heq
        exact String.ne_of_lt (hfirst r hr) heq.symm
      exact ih hrefs hr (by rw [get?_place_of_ne hne, hget])

/-- The children of the modules tree settle one by one. -/
theorem get?_foldl_place_references (h : Keyed.Ascending modules.entries) (name : String) :
    ((references modules).foldl (Reference.place files dir) modules).get? name =
      (modules.get? name).map (settled files dir) := by
  by_cases hstring : ∃ file, modules.get? name = some (.string file)
  · obtain ⟨file, hget⟩ := hstring
    have hmem : ⟨name, file⟩ ∈ references modules := (mem_references_iff h).mpr hget
    rw [get?_foldl_place_of_mem (pairwise_references h) hmem hget, hget, Option.map_some]
  · have hne : ∀ r ∈ references modules, name ≠ r.name := by
      rintro r hr rfl
      exact hstring ⟨r.file, (mem_references_iff h).mp hr⟩
    rw [get?_foldl_place_of_forall_ne hne]
    cases hget : modules.get? name with
    | none => rfl
    | some node =>
      cases node with
      | string file => exact absurd ⟨file, hget⟩ hstring
      | _ => rfl

/-! ### Resolving -/

variable {t : Tree}

theorem get?_resolve_of_ne {key : String} (h : key ≠ modulesKey) :
    (resolve files dir t).value.1.get? key = t.get? key := by
  rw [resolve]
  split
  · rfl
  · exact Tree.get?_insert_of_ne h _ _
  · rfl

/-- Outside of the modules all is bound as before. -/
theorem find?_resolve_of_ne {key : String} (h : key ≠ modulesKey) (keys : List String) :
    (resolve files dir t).value.1.find? (key :: keys) = t.find? (key :: keys) := by
  rw [Tree.find?_cons, Tree.find?_cons, get?_resolve_of_ne h]

/-- The children of the modules tree are bound below `modules`. -/
theorem find?_child (h : t.get? modulesKey = some (.tree modules)) (name : String) :
    t.find? [modulesKey, name] = modules.get? name := by
  rw [Tree.find?_cons, h, Option.bind_some, Node.at?_tree modules (List.cons_ne_nil name []),
    Tree.find?_singleton]

/-- The children of the modules tree settle, if there is such a tree. -/
theorem find?_resolve_child (ht : t.Ordered) (name : String) :
    (resolve files dir t).value.1.find? [modulesKey, name] =
      (t.find? [modulesKey, name]).map (settled files dir) := by
  rw [resolve]
  split
  · next hget =>
    have hnone : t.find? [modulesKey, name] = none := by
      rw [Tree.find?_cons, hget, Option.bind_none]
    rw [hnone]
    exact hnone
  · next modules hget =>
    have hmodules : modules.Ordered := ht.of_get? hget
    rw [Tree.find?_cons, Tree.find?_cons, Tree.get?_insert_self, hget]
    exact get?_foldl_place_references hmodules.ascending name
  · next leaf hleaf hget =>
    have hkind : leaf.isTree = false := by
      cases leaf with
      | tree modules => exact absurd rfl (hleaf modules)
      | _ => rfl
    have hnone : t.find? [modulesKey, name] = none := by
      rw [Tree.find?_cons, hget, Option.bind_some, Node.at?_of_leaf hkind]
    rw [hnone, Option.map_none]

/-- Below a string whose document can be read lies what the document binds. -/
theorem find?_resolve_of_document (ht : t.Ordered) {name file : String} {document : Tree}
    (href : t.find? [modulesKey, name] = some (.string file))
    (hload : Document.load files (Path.join dir file) = .ok document) {keys : List String}
    (hkeys : keys ≠ []) :
    (resolve files dir t).value.1.find? ([modulesKey, name] ++ keys) = document.find? keys := by
  rw [Tree.find?_append _ (List.cons_ne_nil _ _), find?_resolve_child ht, href, Option.map_some,
    settled_of_ok hload, Option.bind_some]
  exact Node.at?_tree document hkeys

/-- Below every other child of the modules all is bound as before. -/
theorem find?_resolve_of_no_document (ht : t.Ordered) {name : String}
    (h : ∀ file document, t.find? [modulesKey, name] = some (.string file) →
      Document.load files (Path.join dir file) ≠ .ok document) (keys : List String) :
    (resolve files dir t).value.1.find? ([modulesKey, name] ++ keys) =
      t.find? ([modulesKey, name] ++ keys) := by
  have hpair : [modulesKey, name] ≠ [] := List.cons_ne_nil _ _
  rw [Tree.find?_append _ hpair, Tree.find?_append _ hpair, find?_resolve_child ht]
  cases hnode : t.find? [modulesKey, name] with
  | none => rfl
  | some node =>
    -- only a string whose document can be read settles as something else
    have hsettled : settled files dir node = node := by
      cases node with
      | string file =>
        cases hload : Document.load files (Path.join dir file) with
        | ok document => exact absurd hload (h file document hnode)
        | error error => exact settled_of_error hload
      | _ => rfl
    rw [Option.map_some, hsettled]

/-! ### References of a tree -/

/-- The references of a tree whose modules are to be resolved. -/
def referencesOf (t : Tree) : List Reference := ((t.subtree? modulesKey).map references).getD []

theorem referencesOf_of_tree (h : t.get? modulesKey = some (.tree modules)) :
    referencesOf t = references modules := by
  rw [referencesOf, Tree.subtree?, h]
  rfl

theorem referencesOf_of_no_tree (h : ∀ modules, t.get? modulesKey ≠ some (.tree modules)) :
    referencesOf t = [] := by
  rw [referencesOf, Tree.subtree?]
  cases hget : t.get? modulesKey with
  | none => rfl
  | some node =>
    cases node with
    | tree modules => exact absurd hget (h modules)
    | _ => rfl

/-- The references of an ordered tree are the strings directly below `modules`. -/
theorem mem_referencesOf_iff (ht : t.Ordered) {r : Reference} :
    r ∈ referencesOf t ↔ t.find? [modulesKey, r.name] = some (.string r.file) := by
  rw [Tree.find?_cons]
  by_cases hmodules : ∃ modules, t.get? modulesKey = some (.tree modules)
  · obtain ⟨modules, hget⟩ := hmodules
    have hordered : modules.Ordered := ht.of_get? hget
    rw [referencesOf_of_tree hget, mem_references_iff hordered.ascending, hget]
    rfl
  · rw [referencesOf_of_no_tree fun modules hget => hmodules ⟨modules, hget⟩]
    constructor
    · intro hr
      exact absurd hr List.not_mem_nil
    · intro hfind
      obtain ⟨node, hget, hat⟩ := Option.bind_eq_some_iff.mp hfind
      cases node with
      | tree modules => exact absurd ⟨modules, hget⟩ hmodules
      | _ => exact absurd hat (by simp [Node.at?, Node.tree?])

theorem pairwise_referencesOf (ht : t.Ordered) :
    (referencesOf t).Pairwise fun r s => r.name < s.name := by
  by_cases hmodules : ∃ modules, t.get? modulesKey = some (.tree modules)
  · obtain ⟨modules, hget⟩ := hmodules
    have hordered : modules.Ordered := ht.of_get? hget
    rw [referencesOf_of_tree hget]
    exact pairwise_references hordered.ascending
  · rw [referencesOf_of_no_tree fun modules hget => hmodules ⟨modules, hget⟩]
    exact List.Pairwise.nil

/-! ### Failures -/

theorem failure?_eq_some_iff {r : Reference} {name : String} {error : Error} :
    r.failure? files dir = some (name, error) ↔
      r.name = name ∧ Document.load files (Path.join dir r.file) = .error error := by
  rw [Reference.failure?, Reference.load]
  cases Document.load files (Path.join dir r.file) <;> simp

theorem failures_resolve (files : FileSystem) (dir : String) (t : Tree) :
    (resolve files dir t).value.2 = (referencesOf t).filterMap (Reference.failure? files dir) := by
  rw [resolve]
  split
  · next hget => rw [referencesOf_of_no_tree (by simp [hget])]; rfl
  · next modules hget => rw [referencesOf_of_tree hget]
  · next leaf hleaf hget =>
    rw [referencesOf_of_no_tree]
    · rfl
    · intro modules htree
      exact hleaf modules (Option.some.inj (hget.symm.trans htree))

/-- The modules that fail are the strings whose documents cannot be read, each with the reason. -/
theorem mem_failures_iff (ht : t.Ordered) {name : String} {error : Error} :
    (name, error) ∈ (resolve files dir t).value.2 ↔
      ∃ file, t.find? [modulesKey, name] = some (.string file) ∧
        Document.load files (Path.join dir file) = .error error := by
  rw [failures_resolve, List.mem_filterMap]
  constructor
  · rintro ⟨r, hr, hfailure⟩
    obtain ⟨rfl, hload⟩ := failure?_eq_some_iff.mp hfailure
    exact ⟨r.file, (mem_referencesOf_iff ht).mp hr, hload⟩
  · rintro ⟨file, hfind, hload⟩
    exact ⟨⟨name, file⟩, (mem_referencesOf_iff ht).mpr hfind, failure?_eq_some_iff.mpr ⟨rfl, hload⟩⟩

/-- The modules that fail stand in the order of their names. -/
theorem pairwise_failures (ht : t.Ordered) :
    ((resolve files dir t).value.2.map Prod.fst).Pairwise (· < ·) := by
  rw [failures_resolve, List.map_filterMap]
  apply List.Pairwise.filterMap _ _ (pairwise_referencesOf ht)
  intro a b hab name hname name' hname'
  obtain ⟨⟨_, _⟩, ha, rfl⟩ := Option.map_eq_some_iff.mp hname
  obtain ⟨⟨_, _⟩, hb, rfl⟩ := Option.map_eq_some_iff.mp hname'
  obtain ⟨rfl, -⟩ := failure?_eq_some_iff.mp ha
  obtain ⟨rfl, -⟩ := failure?_eq_some_iff.mp hb
  exact hab

/-! ### What resolving depends on -/

/-- File systems that agree on the documents of the references resolve a tree alike. -/
theorem resolve_congr {files' : FileSystem}
    (h : ∀ r ∈ referencesOf t, files (Path.join dir r.file) = files' (Path.join dir r.file)) :
    resolve files dir t = resolve files' dir t := by
  rw [resolve, resolve]
  split
  · rfl
  · next modules hget =>
    rw [referencesOf_of_tree hget] at h
    have hload : ∀ r ∈ references modules, r.load files dir = r.load files' dir := by
      intro r hr
      exact Document.load_congr (h r hr)
    have hplaced : (references modules).foldl (Reference.place files dir) modules =
        (references modules).foldl (Reference.place files' dir) modules := by
      apply List.foldl_ext
      intro placed r hr
      rw [Reference.place, Reference.place, hload r hr]
    have hfailures : (references modules).filterMap (Reference.failure? files dir) =
        (references modules).filterMap (Reference.failure? files' dir) := by
      apply List.filterMap_congr
      intro r hr
      rw [Reference.failure?, Reference.failure?, hload r hr]
    have hevents : (references modules).map (Reference.event files dir) =
        (references modules).map (Reference.event files' dir) := by
      apply List.map_congr_left
      intro r hr
      rw [Reference.event, Reference.event, hload r hr]
    simp only [hplaced, hfailures, hevents]
  · rfl

/-- A module is resolved if and only if a tree stands directly below `modules`. -/
theorem tree?_eq_find? (t : Tree) (name : String) :
    tree? t name = (t.find? [modulesKey, name]).bind Node.tree? := by
  rw [tree?, Tree.find?_cons, Tree.subtree?, Option.bind_assoc, Option.bind_assoc]
  congr 1
  funext node
  cases node <;> rfl

end ConfigLayers.Modules
