import ConfigLayers.Proofs.Coerce.Integers
import ConfigLayers.Proofs.Overlay.Contents
import ConfigLayers.Proofs.Tree.Json
import ConfigLayers.Proofs.Tree.Ordered
import ConfigLayers.Proofs.Tree.Reads

/-!
# Sections of integers

A tree binds to a map of integers if and only if every child of it is an integer that the type has.
For a tree of integers this is the same as reading every child on its own, and the map has the
integers that these reads give. They part where the command line has written to a child: a written
text can be read as an integer, but the section has a string in it and no longer binds.
-/

namespace ConfigLayers

/-- Entries that bind each key to its integer. -/
def Tree.integerEntries (values : List (String × Int)) : List (String × Node) :=
  values.map fun v => (v.1, .number (.int v.2))

/-- The bound map of each key to its integer. -/
def Bound.ofIntegers (values : List (String × Int)) : Bound :=
  .map (values.map fun v => (v.1, .integer v.2))

theorem Tree.integerEntries_injective {values values' : List (String × Int)}
    (h : integerEntries values = integerEntries values') : values = values' := by
  refine List.map_injective_iff.mpr ?_ h
  rintro ⟨key, n⟩ ⟨key', n'⟩ heq
  simpa using heq

theorem Tree.keys_integerEntries (values : List (String × Int)) :
    Keyed.keys (integerEntries values) = Keyed.keys values :=
  Keyed.keys_map (fun n => Node.number (.int n)) values

theorem Tree.ascending_integerEntries_iff {values : List (String × Int)} :
    Keyed.Ascending (integerEntries values) ↔ Keyed.Ascending values := by
  rw [integerEntries, Keyed.Ascending, List.pairwise_map]
  rfl

/-- Entries that are all integers bind each key to its integer. -/
theorem Tree.exists_integerEntries {es : List (String × Node)}
    (h : ∀ entry ∈ es, ∃ n, entry.2 = .number (.int n)) : ∃ values, es = integerEntries values := by
  induction es with
  | nil => exact ⟨[], rfl⟩
  | cons entry es ih =>
    obtain ⟨⟨n, hn⟩, hes⟩ := List.forall_mem_cons.mp h
    obtain ⟨values, rfl⟩ := ih hes
    exact ⟨(entry.1, n) :: values, congrArg (· :: _) (Prod.ext rfl hn)⟩

variable {type : IntType} {bound : Bound}

/-! ### Binding -/

/-- The values of the members are bound one by one. -/
theorem bindMembers_cons_eq_ok_iff {bindValue : Json → Except Mismatch Bound} {key : String}
    {value : Json} {members : List (String × Json)} {entries : List (String × Bound)} :
    bindMembers bindValue ((key, value) :: members) = .ok entries ↔
      ∃ first rest, bindValue value = .ok first ∧ bindMembers bindValue members = .ok rest ∧
        entries = (key, first) :: rest := by
  rw [bindMembers]
  cases hvalue : bindValue value with
  | error m => simp [bind, Except.bind]
  | ok first =>
    cases bindMembers bindValue members with
    | error m => simp [bind, Except.bind]
    | ok rest => simp [bind, Except.bind, pure, Except.pure, eq_comm]

/-- Only integers in range bind to an integer: a string never does, whatever its text. -/
theorem Shape.bind_integer_eq_ok_iff {node : Node} :
    (Shape.integer type).bind node.toJson = .ok bound ↔
      ∃ n, node = .number (.int n) ∧ type.InRange n ∧ bound = .integer n := by
  cases node with
  | number x =>
    cases x with
    | int n =>
      by_cases hrange : type.InRange n
      · simp [Node.toJson, Shape.bind, IntType.inRange_iff.mp hrange, hrange, eq_comm]
      · have hout : ¬ (type.least ≤ n ∧ n ≤ type.greatest) := IntType.inRange_iff.not.mp hrange
        simp [Node.toJson, Shape.bind, hout, hrange]
    | double x => simp [Node.toJson, Shape.bind]
  | tree t =>
    cases t
    simp [Node.toJson, Tree.toJson, Shape.bind]
  | _ => simp [Node.toJson, Shape.bind]

theorem bindMembers_integer_eq_ok_iff {es : List (String × Node)} {bounds : List (String × Bound)} :
    bindMembers (Shape.integer type).bind (Tree.entriesToJson es) = .ok bounds ↔
      ∃ values, es = Tree.integerEntries values ∧ (∀ v ∈ values, type.InRange v.2) ∧
        bounds = values.map fun v => (v.1, .integer v.2) := by
  induction es generalizing bounds with
  | nil =>
    constructor
    · intro h
      exact ⟨[], rfl, List.forall_mem_nil _, (Except.ok.inj h).symm⟩
    · rintro ⟨values, hes, -, rfl⟩
      rw [List.map_eq_nil_iff.mp hes.symm]
      rfl
  | cons entry es ih =>
    obtain ⟨key, node⟩ := entry
    rw [Tree.entriesToJson, bindMembers_cons_eq_ok_iff]
    constructor
    · rintro ⟨first, rest, hfirst, hrest, rfl⟩
      obtain ⟨n, rfl, hn, rfl⟩ := Shape.bind_integer_eq_ok_iff.mp hfirst
      obtain ⟨values, rfl, hvalues, rfl⟩ := ih.mp hrest
      exact ⟨(key, n) :: values, rfl, List.forall_mem_cons.mpr ⟨hn, hvalues⟩, rfl⟩
    · rintro ⟨values, hes, hvalues, rfl⟩
      obtain ⟨⟨_, n⟩, values, rfl, hentry, rfl⟩ := List.map_eq_cons_iff.mp hes.symm
      obtain ⟨rfl, rfl⟩ := Prod.mk.inj hentry
      obtain ⟨hn, hvalues⟩ := List.forall_mem_cons.mp hvalues
      exact ⟨_, _, Shape.bind_integer_eq_ok_iff.mpr ⟨n, rfl, hn, rfl⟩,
        ih.mpr ⟨values, rfl, hvalues, rfl⟩, rfl⟩

/-- A tree binds to a map of integers if and only if all its children are integers in range. -/
theorem Shape.bind_mapInteger_eq_ok_iff {t : Tree} :
    (Shape.map (.integer type)).bind t.toJson = .ok bound ↔
      ∃ values, t.entries = Tree.integerEntries values ∧ (∀ v ∈ values, type.InRange v.2) ∧
        bound = .ofIntegers values := by
  obtain ⟨es⟩ := t
  have hmap : (Shape.map (.integer type)).bind (Tree.ofEntries es).toJson = .ok bound ↔
      ∃ bounds, bindMembers (Shape.integer type).bind (Tree.entriesToJson es) = .ok bounds ∧
        bound = .map bounds := by
    rw [Tree.toJson, Shape.bind]
    cases bindMembers (Shape.integer type).bind (Tree.entriesToJson es) <;>
      simp [Except.map, eq_comm]
  simp only [hmap, bindMembers_integer_eq_ok_iff]
  constructor
  · rintro ⟨_, ⟨values, hes, hvalues, rfl⟩, rfl⟩
    exact ⟨values, hes, hvalues, rfl⟩
  · rintro ⟨values, hes, hvalues, rfl⟩
    exact ⟨_, ⟨values, hes, hvalues, rfl⟩, rfl⟩

/-! ### Reading -/

namespace Tree

variable {t sub : Tree} {path key text : String}

/-- The section at a path, read as a map of integers. -/
def readIntegers (t : Tree) (type : IntType) (path : String) : Except Error Bound :=
  (t.getSection path none (.map (.integer type))).value

/-- The scalar below a path, read as an integer. -/
def readInteger (t : Tree) (type : IntType) (path key : String) : Except Error Int :=
  (t.getAs (path ++ "." ++ key) none (Coerce.integer type)).value

theorem readIntegers_eq_ok_iff (hsub : t.lookup path = .ok (.tree sub)) :
    t.readIntegers type path = .ok bound ↔
      ∃ values, sub.entries = integerEntries values ∧ (∀ v ∈ values, type.InRange v.2) ∧
        bound = .ofIntegers values := by
  rw [readIntegers, value_getSection_of_lookup hsub, mapError_eq_ok_iff, mapError_eq_ok_iff,
    Node.toJson, Shape.bind_mapInteger_eq_ok_iff]

/-- A section that does not bind has the wrong format. -/
theorem wrongFormat_of_readIntegers (hsub : t.lookup path = .ok (.tree sub))
    (h : ∀ bound, t.readIntegers type path ≠ .ok bound) :
    ∃ reason, t.readIntegers type path = .error (.wrongFormat path reason) :=
  wrongFormat_of_read hsub h

/-! ### Trees of integers -/

/-- The path is bound to the tree of these integers, whose keys are segments of paths. -/
structure BindsIntegers (t : Tree) (path : String) (values : List (String × Int)) : Prop where
  bound : t.lookup path = .ok (.tree (.ofEntries (integerEntries values)))
  ascending : Keyed.Ascending values
  segment : ∀ v ∈ values, '.' ∉ v.1.toList

theorem exists_bindsIntegers (ht : t.Ordered) (hsub : t.lookup path = .ok (.tree sub))
    (hints : ∀ entry ∈ sub.entries, '.' ∉ entry.1.toList ∧ ∃ n, entry.2 = .number (.int n)) :
    ∃ values, sub.entries = integerEntries values ∧ t.BindsIntegers path values := by
  have hordered : sub.Ordered := ht.of_find? (lookup_eq_ok_iff.mp hsub)
  obtain ⟨es⟩ := sub
  obtain ⟨values, rfl⟩ := exists_integerEntries fun entry hentry => (hints entry hentry).2
  refine ⟨values, rfl, hsub, ascending_integerEntries_iff.mp hordered.ascending, ?_⟩
  intro v hv
  exact (hints _ (List.mem_map.mpr ⟨v, hv, rfl⟩)).1

section BindsIntegers

variable {values : List (String × Int)} (h : t.BindsIntegers path values)

include h

/-- The section binds if and only if all integers are in range. -/
theorem BindsIntegers.readIntegers_eq_ok_iff : t.readIntegers type path = .ok bound ↔
    (∀ v ∈ values, type.InRange v.2) ∧ bound = .ofIntegers values := by
  rw [Tree.readIntegers_eq_ok_iff h.bound]
  constructor
  · rintro ⟨_, hentries, hrange, rfl⟩
    rw [integerEntries_injective hentries]
    exact ⟨hrange, rfl⟩
  · rintro ⟨hrange, rfl⟩
    exact ⟨values, rfl, hrange, rfl⟩

theorem BindsIntegers.lookup {v : String × Int} (hv : v ∈ values) :
    t.lookup (path ++ "." ++ v.1) = .ok (.number (.int v.2)) := by
  apply (lookup_child_iff h.bound (h.segment v hv)).mpr
  have hascending := ascending_integerEntries_iff.mpr h.ascending
  exact hascending.get?_eq_some_iff.mpr (List.mem_map.mpr ⟨v, hv, rfl⟩)

/-- Each child is read if and only if its own integer is in range. -/
theorem BindsIntegers.readInteger_eq_ok_iff {v : String × Int} (hv : v ∈ values) {n : Int} :
    t.readInteger type path v.1 = .ok n ↔ n = v.2 ∧ type.InRange v.2 := by
  rw [readInteger, value_getAs_of_text (h.lookup hv) rfl, mapError_eq_ok_iff, Number.scalarText,
    Coerce.integer_toString_eq_ok_iff]

end BindsIntegers

/-! ### After an override -/

/-- A section does not bind while a string lies anywhere below it. -/
theorem readIntegers_of_string (h : t.lookup (path ++ "." ++ key) = .ok (.string text)) :
    ∃ reason, t.readIntegers type path = .error (.wrongFormat path reason) := by
  rw [lookup_eq_ok_iff, Path.keys_append, find?_append t (Path.keys_ne_nil path),
    Option.bind_eq_some_iff] at h
  obtain ⟨node, hnode, hat⟩ := h
  cases hkeys : Path.keys key with
  | nil => exact absurd hkeys (Path.keys_ne_nil key)
  | cons first rest =>
    rw [hkeys, Node.at?, Option.bind_eq_some_iff] at hat
    obtain ⟨sub, hsub, hfind⟩ := hat
    obtain rfl := Node.tree?_eq_some_iff.mp hsub
    rw [find?_cons, Option.bind_eq_some_iff] at hfind
    obtain ⟨child, hchild, hat⟩ := hfind
    have hbound := lookup_eq_ok_iff.mpr hnode
    apply wrongFormat_of_readIntegers hbound
    intro bound hok
    -- the child on the way to the string is no integer
    obtain ⟨values, hentries, -, -⟩ := (readIntegers_eq_ok_iff hbound).mp hok
    have hmem : (first, child) ∈ integerEntries values :=
      hentries ▸ Keyed.mem_of_get?_eq_some hchild
    obtain ⟨v, -, hv⟩ := List.mem_map.mp hmem
    obtain ⟨-, rfl⟩ := Prod.mk.inj hv
    cases rest <;> simp [Node.at?, Node.tree?] at hat

/-- The string itself is read by its text. -/
theorem readInteger_of_string (h : t.lookup (path ++ "." ++ key) = .ok (.string text)) {n : Int} :
    t.readInteger type path key = .ok n ↔ Coerce.integer type text = .ok n := by
  rw [readInteger, value_getAs_of_text h rfl, mapError_eq_ok_iff]

/-- A leaf can be overwritten by any string. -/
theorem assign_result_of_leaf (h : t.BindsLeaf path) (hpath : "" ∉ Path.keys path)
    (text : String) : (Overlay.assign t path text).result = .ok () := by
  rw [Overlay.assign_eq_write, setInPlace_result_eq_ok_iff, open_keys_iff rfl]
  refine ⟨Path.keys_ne_nil path, hpath, ?_, h.not_bindsTree⟩
  intro upper habove hleaf
  obtain ⟨node, hnode, -⟩ := h
  exact hleaf.not_bindsTree (bindsTree_of_above habove (lookup_eq_ok_iff.mp hnode))

/-- The command line has written a string at a path: with one assignment that the tree takes, or
with the last one of a run that it takes. -/
inductive Overwritten (t : Tree) (path text : String) : Tree → Prop
  | once (h : (Overlay.assign t path text).result = .ok ()) :
      Overwritten t path text (Overlay.assign t path text).tree
  | last {args : List String} (h : Overlay.lastValue? (Overlay.writes args t) path = some text) :
      Overwritten t path text (Overlay.apply args t).value.1

theorem Overwritten.lookup {t' : Tree} (h : Overwritten t path text t') :
    t'.lookup path = .ok (.string text) := by
  rw [lookup_eq_ok_iff]
  cases h with
  | once h =>
    rw [Overlay.assign_eq_write] at h ⊢
    exact find?_write_leaf_self h
  | last h => exact (Overlay.contents_outcomes _ t).written path text h

/-- In a tree of integers under keys that are segments of paths, a section binds to a map of
integers if and only if every child can be read as one, and the map has what these reads give. Once
a child has been overwritten, which any text can do, the section no longer binds, but the child is
read by its text. -/
theorem sections_and_scalars (type : IntType) (ht : t.Ordered)
    (hsub : t.lookup path = .ok (.tree sub))
    (hints : ∀ entry ∈ sub.entries, '.' ∉ entry.1.toList ∧ ∃ n, entry.2 = .number (.int n)) :
    ((∃ bound, t.readIntegers type path = .ok bound) ↔
      ∀ key ∈ Keyed.keys sub.entries, ∃ n, t.readInteger type path key = .ok n) ∧
    (∀ bound, t.readIntegers type path = .ok bound →
      ∃ values, bound = .ofIntegers values ∧ sub.entries = integerEntries values ∧
        ∀ v ∈ values, t.readInteger type path v.1 = .ok v.2) ∧
    ((∀ bound, t.readIntegers type path ≠ .ok bound) →
      ∃ reason, t.readIntegers type path = .error (.wrongFormat path reason)) ∧
    (∀ key ∈ Keyed.keys sub.entries, "" ∉ Path.keys (path ++ "." ++ key) → ∀ text,
      ∃ t', Overwritten t (path ++ "." ++ key) text t') ∧
    ∀ key ∈ Keyed.keys sub.entries, ∀ text t', Overwritten t (path ++ "." ++ key) text t' →
      (∃ reason, t'.readIntegers type path = .error (.wrongFormat path reason)) ∧
        ∀ n, t'.readInteger type path key = .ok n ↔ Coerce.integer type text = .ok n := by
  obtain ⟨values, hentries, hbinds⟩ := exists_bindsIntegers ht hsub hints
  rw [hentries, keys_integerEntries, Keyed.keys]
  refine ⟨?_, ?_, wrongFormat_of_readIntegers hsub, ?_, ?_⟩
  · constructor
    · rintro ⟨bound, hbound⟩ key hkey
      obtain ⟨v, hv, rfl⟩ := List.mem_map.mp hkey
      obtain ⟨hrange, -⟩ := hbinds.readIntegers_eq_ok_iff.mp hbound
      exact ⟨v.2, (hbinds.readInteger_eq_ok_iff hv).mpr ⟨rfl, hrange v hv⟩⟩
    · intro hscalars
      refine ⟨_, hbinds.readIntegers_eq_ok_iff.mpr ⟨?_, rfl⟩⟩
      intro v hv
      obtain ⟨n, hn⟩ := hscalars v.1 (List.mem_map.mpr ⟨v, hv, rfl⟩)
      exact ((hbinds.readInteger_eq_ok_iff hv).mp hn).2
  · intro bound hbound
    obtain ⟨hrange, rfl⟩ := hbinds.readIntegers_eq_ok_iff.mp hbound
    exact ⟨values, rfl, rfl, fun v hv => (hbinds.readInteger_eq_ok_iff hv).mpr ⟨rfl, hrange v hv⟩⟩
  · intro key hkey hpath text
    obtain ⟨v, hv, rfl⟩ := List.mem_map.mp hkey
    exact ⟨_, .once (assign_result_of_leaf ⟨_, hbinds.lookup hv, rfl⟩ hpath text)⟩
  · intro key _ text t' hover
    exact ⟨readIntegers_of_string hover.lookup, fun n => readInteger_of_string hover.lookup⟩

/-! ### A section with an integer above the signed range -/

def sampleSection : Tree :=
  .ofEntries [("big", .number (.int (2 ^ 63))), ("port", .number (.int 8080))]

def sampleServer : Tree := .ofEntries [("server", .tree sampleSection)]

/-- The section binds as unsigned integers only. With an override of one child it binds no more,
and the child is read as the integer that its text denotes. -/
theorem sections_and_scalars_overwritten :
    sampleServer.Ordered ∧ sampleServer.lookup "server" = .ok (.tree sampleSection) ∧
      (∃ bound, sampleServer.readIntegers .u64 "server" = .ok bound) ∧
      (∃ reason, sampleServer.readIntegers .i64 "server" = .error (.wrongFormat "server" reason)) ∧
      ∃ t', Overwritten sampleServer "server.port" " 80" t' ∧
        (∃ reason, t'.readIntegers .u64 "server" = .error (.wrongFormat "server" reason)) ∧
        t'.readInteger .u64 "server" "port" = .ok 80 := by
  have hordered : sampleServer.Ordered :=
    ⟨by decide, ⟨by decide, trivial, trivial, trivial⟩, trivial⟩
  have hsub : sampleServer.lookup "server" = .ok (.tree sampleSection) := rfl
  have hints : ∀ entry ∈ sampleSection.entries,
      '.' ∉ entry.1.toList ∧ ∃ n, entry.2 = .number (.int n) := by
    simp [sampleSection]
  obtain ⟨hscalars, -, -, hwritable, hover⟩ := sections_and_scalars .u64 hordered hsub hints
  obtain ⟨-, -, hsigned, -, -⟩ := sections_and_scalars .i64 hordered hsub hints
  obtain ⟨t', ht'⟩ := hwritable "port" (by decide) (by decide) " 80"
  obtain ⟨hsection, hscalar⟩ := hover "port" (by decide) " 80" t' ht'
  have hbig : sampleServer.readInteger .u64 "server" "big" = .ok (2 ^ 63) := rfl
  have hport : sampleServer.readInteger .u64 "server" "port" = .ok 8080 := rfl
  have hout : ∀ bound, sampleServer.readIntegers .i64 "server" ≠ .ok bound := nofun
  refine ⟨hordered, hsub, hscalars.mpr ?_, hsigned hout, t', ht', hsection, (hscalar 80).mpr rfl⟩
  intro key hkey
  rcases List.mem_pair.mp hkey with rfl | rfl
  · exact ⟨_, hbig⟩
  · exact ⟨_, hport⟩

end Tree

end ConfigLayers
