import ConfigLayers.Proofs.Tree.Ways

/-!
# Writing to a tree

When a write succeeds, and what every way leads to afterwards. A write at the end of a way shows in
three places: at the way and below it stands the new node, above it stand trees, and what parts from
it is as before. A write that fails leaves the tree it found.
-/

namespace ConfigLayers.Tree

variable {t : Tree} {node : Node}

@[simp] theorem Written.result_under (t : Tree) (key : String) (w : Written) :
    (w.under t key).result = w.result := rfl

@[simp] theorem Written.tree_under (t : Tree) (key : String) (w : Written) :
    (w.under t key).tree = t.insert key (.tree w.tree) := rfl

theorem Written.toExcept_eq_ok_iff {w : Written} {t : Tree} :
    w.toExcept = .ok t ↔ w.result = .ok () ∧ w.tree = t := by
  obtain ⟨_ | _, _⟩ := w <;> simp [toExcept]

theorem get?_insert_of_ne {key other : String} (h : other ≠ key) (t : Tree) (node : Node) :
    (t.insert key node).get? other = t.get? other :=
  Keyed.get?_insert_of_ne h node t.entries

/-- A binding of another key has no part in the ways from this one. -/
theorem find?_insert_of_ne {key other : String} (h : other ≠ key) (t : Tree) (node : Node)
    (rest : List String) : (t.insert key node).find? (other :: rest) = t.find? (other :: rest) := by
  rw [find?_cons, get?_insert_of_ne h, find?_cons]

/-- Binding a key to what it is bound to already gives the same tree. -/
theorem insert_of_get?_eq_some {key : String} (h : t.get? key = some node) :
    t.insert key node = t := by
  obtain ⟨es⟩ := t
  exact congrArg ofEntries (Keyed.insert_of_get?_eq_some h)

/-! ### Open ways -/

/-- A node can be bound at the end of the way: no key before the last one is bound to a leaf, and
the last one, if it is bound, to a node of the same sort. -/
structure Open (t : Tree) (way : List String) (node : Node) : Prop where
  above : ∀ upper old, Path.Above upper way → t.find? upper = some old → old.isTree = true
  last : ∀ old, t.find? way = some old → old.isTree = node.isTree

/-- The tree that a key leads into, a new one if the key is unbound, binds what the longer ways
lead to. -/
theorem find?_of_branch {key : String} {sub : Tree}
    (h : (t.get? key).getD (.tree empty) = .tree sub) (next : String) (rest : List String) :
    t.find? (key :: next :: rest) = sub.find? (next :: rest) := by
  rw [find?_cons]
  cases hget : t.get? key with
  | none =>
    rw [hget, Option.getD_none, Node.tree.injEq] at h
    rw [← h, find?_empty, Option.bind_none]
  | some node =>
    rw [hget, Option.getD_some] at h
    rw [h]
    rfl

theorem open_singleton {key : String} :
    Open t [key] node ↔ ∀ old, t.get? key = some old → old.isTree = node.isTree := by
  constructor
  · intro hopen
    exact hopen.last
  · intro hlast
    refine ⟨?_, hlast⟩
    -- nothing but the root lies above a single key
    intro upper old habove hfind
    cases upper with
    | nil => exact absurd hfind (by simp)
    | cons a p =>
      obtain ⟨-, hp⟩ := Path.above_cons_cons.mp habove
      exact absurd hp (Path.not_above_nil p)

theorem open_cons {key next : String} {rest : List String} {sub : Tree}
    (h : (t.get? key).getD (.tree empty) = .tree sub) :
    Open t (key :: next :: rest) node ↔ Open sub (next :: rest) node := by
  constructor
  · intro hopen
    refine ⟨?_, fun old hold => hopen.last old (by rw [find?_of_branch h, hold])⟩
    intro upper old habove hfind
    cases upper with
    | nil => exact absurd hfind (by simp)
    | cons a p =>
      apply hopen.above (key :: a :: p) old (Path.above_cons_cons.mpr ⟨rfl, habove⟩)
      rw [find?_of_branch h, hfind]
  · intro hopen
    refine ⟨?_, fun old hold => hopen.last old (by rw [← find?_of_branch h, hold])⟩
    intro upper old habove hfind
    match upper with
    | [] => exact absurd hfind (by simp)
    | [a] =>
      -- what `key` itself is bound to is the tree of the branch
      obtain ⟨rfl, -⟩ := Path.above_cons_cons.mp habove
      rw [find?_singleton] at hfind
      rw [hfind, Option.getD_some] at h
      rw [h, Node.isTree_tree]
    | a :: b :: p =>
      obtain ⟨rfl, hp⟩ := Path.above_cons_cons.mp habove
      exact hopen.above (b :: p) old hp (by rw [← find?_of_branch h, hfind])

theorem not_open_of_leaf {key next : String} {rest : List String} {leaf : Node}
    (h : (t.get? key).getD (.tree empty) = leaf) (hleaf : leaf.isTree = false) :
    ¬ Open t (key :: next :: rest) node := by
  intro hopen
  cases hget : t.get? key with
  | none =>
    rw [hget, Option.getD_none] at h
    rw [← h] at hleaf
    exact absurd hleaf (by simp)
  | some old =>
    rw [hget, Option.getD_some] at h
    have habove : Path.Above [key] (key :: next :: rest) :=
      Path.above_iff_exists.mpr ⟨next, rest, rfl⟩
    have htree := hopen.above [key] old habove hget
    rw [h, hleaf] at htree
    exact absurd htree (by simp)

/-! ### The walk -/

section Walk

variable {before : List String} {key : String} {rest : List String}

theorem bind_result_eq_ok_iff (label : String) :
    (t.bind label key node).result = .ok () ↔
      ∀ old, t.get? key = some old → old.isTree = node.isTree := by
  rw [bind]
  cases hget : t.get? key with
  | none => simp
  | some old => by_cases h : old.isTree = node.isTree <;> simp [h]

theorem tree_bind_of_ok {label : String} (h : (t.bind label key node).result = .ok ()) :
    (t.bind label key node).tree = t.insert key node := by
  have hkind := (bind_result_eq_ok_iff label).mp h
  rw [bind]
  cases hget : t.get? key with
  | none => rfl
  | some old => simp [hkind old hget]

/-- The two ways that a walk goes on after its first key: into a tree, or nowhere. -/
theorem write_cons (t : Tree) (node : Node) (before : List String) (key next : String)
    (rest : List String) :
    (∃ sub, (t.get? key).getD (.tree empty) = .tree sub ∧
      t.write node before key (next :: rest) =
        (sub.write node (before ++ [key]) next rest).under t key) ∨
    (∃ leaf, (t.get? key).getD (.tree empty) = leaf ∧ leaf.isTree = false ∧
      t.write node before key (next :: rest) =
        ⟨.error (.kindConflict (Path.dotted (before ++ [key])) leaf.kind .tree), t⟩) := by
  rw [write]
  cases hnode : (t.get? key).getD (.tree empty) with
  | tree sub => exact .inl ⟨sub, rfl, rfl⟩
  | _ => exact .inr ⟨_, rfl, rfl, rfl⟩

/-- A walk succeeds if and only if the way is open. -/
theorem write_result_eq_ok_iff :
    (t.write node before key rest).result = .ok () ↔ Open t (key :: rest) node := by
  induction rest generalizing t before key with
  | nil => rw [write, bind_result_eq_ok_iff, open_singleton]
  | cons next rest ih =>
    rcases write_cons t node before key next rest with ⟨sub, hsub, hw⟩ | ⟨leaf, hget, hleaf, hw⟩
    · rw [hw, Written.result_under, ih, open_cons hsub]
    · rw [hw]
      constructor
      · intro hok
        exact absurd hok (by simp)
      · intro hopen
        exact absurd hopen (not_open_of_leaf hget hleaf)

/-- A walk fails only with a conflict of kinds. -/
theorem exists_kindConflict_of_write_error {error : Error}
    (h : (t.write node before key rest).result = .error error) :
    ∃ path existing attempted, error = .kindConflict path existing attempted := by
  induction rest generalizing t before key with
  | nil =>
    rw [write, bind] at h
    split at h
    · split at h
      · exact absurd h (by simp)
      · exact ⟨_, _, _, (Except.error.inj h).symm⟩
    · exact absurd h (by simp)
  | cons next rest ih =>
    rcases write_cons t node before key next rest with ⟨sub, -, hw⟩ | ⟨leaf, -, -, hw⟩
    · rw [hw, Written.result_under] at h
      exact ih h
    · rw [hw] at h
      exact ⟨_, _, _, (Except.error.inj h).symm⟩

/-- In a new tree every way is open. -/
theorem open_empty (way : List String) (node : Node) : Open empty way node := by
  constructor
  · intro upper old _ h
    exact absurd h (by simp)
  · intro old h
    exact absurd h (by simp)

/-- A walk that fails leaves the tree it found. New trees are only put in where nothing is bound,
and from there on nothing can fail. -/
theorem tree_write_of_error {error : Error}
    (h : (t.write node before key rest).result = .error error) :
    (t.write node before key rest).tree = t := by
  induction rest generalizing t before key with
  | nil =>
    rw [write, bind] at h ⊢
    split at h
    · split at h
      · exact absurd h (by simp)
      · next hne => simp [hne]
    · exact absurd h (by simp)
  | cons next rest ih =>
    rcases write_cons t node before key next rest with ⟨sub, hsub, hw⟩ | ⟨leaf, -, -, hw⟩
    · rw [hw, Written.result_under] at h
      rw [hw, Written.tree_under, ih h]
      cases hget : t.get? key with
      | none =>
        -- a new tree was put in, and inside it the walk cannot have failed
        rw [hget, Option.getD_none, Node.tree.injEq] at hsub
        rw [← hsub, write_result_eq_ok_iff.mpr (open_empty _ node)] at h
        exact absurd h (by simp)
      | some old =>
        -- the old tree comes back unchanged and is bound again
        rw [hget, Option.getD_some] at hsub
        exact insert_of_get?_eq_some (hsub ▸ hget)
    · rw [hw]

/-- Below the end of a walk one finds what lies below the new node. -/
theorem find?_write_append (h : (t.write node before key rest).result = .ok ())
    (way : List String) :
    (t.write node before key rest).tree.find? (key :: rest ++ way) = node.at? way := by
  induction rest generalizing t before key with
  | nil =>
    rw [write] at h ⊢
    rw [tree_bind_of_ok h, List.singleton_append, find?_cons, get?_insert_self, Option.bind_some]
  | cons next rest ih =>
    rcases write_cons t node before key next rest with ⟨sub, -, hw⟩ | ⟨leaf, -, -, hw⟩
    · rw [hw, Written.result_under] at h
      rw [hw, Written.tree_under, List.cons_append, List.cons_append, find?_cons,
        get?_insert_self, Option.bind_some]
      exact ih h
    · rw [hw] at h
      exact absurd h (by simp)

/-- Where a way parts from that of a walk, the walk changes nothing. -/
theorem find?_write_parted (h : (t.write node before key rest).result = .ok ())
    {way : List String} (hparted : Path.Parted (key :: rest) way) :
    (t.write node before key rest).tree.find? way = t.find? way := by
  induction rest generalizing t before key way with
  | nil =>
    rw [write] at h ⊢
    rw [tree_bind_of_ok h]
    cases hparted with
    | here hne => exact find?_insert_of_ne (Ne.symm hne) _ _ _
    | there hnil => nomatch hnil
  | cons next rest ih =>
    rcases write_cons t node before key next rest with ⟨sub, hsub, hw⟩ | ⟨leaf, -, -, hw⟩
    · rw [hw, Written.result_under] at h
      rw [hw, Written.tree_under]
      cases hparted with
      | here hne => exact find?_insert_of_ne (Ne.symm hne) _ _ _
      | @there _ _ q hparted =>
        -- both ways go on in the same subtree
        have hsame := ih h hparted
        cases q with
        | nil => nomatch hparted
        | cons b q => rw [find?_cons, get?_insert_self, find?_of_branch hsub, ← hsame]; rfl
    · rw [hw] at h
      exact absurd h (by simp)

end Walk

/-! ### Writing at the end of segments -/

section Set

variable {segments : List String}

theorem setInPlace_cons (t : Tree) (node : Node) {key : String} {rest : List String}
    (h : "" ∉ key :: rest) : t.setInPlace (key :: rest) node = t.write node [] key rest := by
  rw [setInPlace, if_neg h]

/-- A write succeeds if and only if there are segments, none of them empty, and their way is
open. -/
theorem setInPlace_result_eq_ok_iff :
    (t.setInPlace segments node).result = .ok () ↔
      segments ≠ [] ∧ "" ∉ segments ∧ Open t segments node := by
  cases segments with
  | nil => simp [setInPlace]
  | cons key rest =>
    by_cases h : "" ∈ key :: rest
    · rw [setInPlace, if_pos h]
      constructor
      · intro hok
        exact absurd hok (by simp)
      · rintro ⟨-, hmem, -⟩
        exact absurd h hmem
    · rw [setInPlace_cons t node h, write_result_eq_ok_iff]
      constructor
      · intro hopen
        exact ⟨List.cons_ne_nil key rest, h, hopen⟩
      · rintro ⟨-, -, hopen⟩
        exact hopen

/-- A write that fails leaves the tree it found. -/
theorem tree_setInPlace_of_error {error : Error}
    (h : (t.setInPlace segments node).result = .error error) :
    (t.setInPlace segments node).tree = t := by
  cases segments with
  | nil => rfl
  | cons key rest =>
    by_cases hmem : "" ∈ key :: rest
    · rw [setInPlace, if_pos hmem]
    · rw [setInPlace_cons t node hmem] at h ⊢
      exact tree_write_of_error h

/-- At the end of the segments and below it one finds what lies below the new node. -/
theorem find?_setInPlace_append (h : (t.setInPlace segments node).result = .ok ())
    (way : List String) :
    (t.setInPlace segments node).tree.find? (segments ++ way) = node.at? way := by
  obtain ⟨hne, hmem, -⟩ := setInPlace_result_eq_ok_iff.mp h
  cases segments with
  | nil => exact absurd rfl hne
  | cons key rest =>
    rw [setInPlace_cons t node hmem] at h ⊢
    exact find?_write_append h way

/-- Above the end of the segments one finds trees. -/
theorem find?_setInPlace_above (h : (t.setInPlace segments node).result = .ok ())
    {way : List String} (hne : way ≠ []) (habove : Path.Above way segments) :
    ∃ sub, (t.setInPlace segments node).tree.find? way = some (.tree sub) := by
  have hend := find?_setInPlace_append h []
  rw [List.append_nil, Node.at?_nil] at hend
  exact exists_tree_of_find?_above hne habove hend

/-- Where a way parts from the segments, nothing changes. -/
theorem find?_setInPlace_parted (h : (t.setInPlace segments node).result = .ok ())
    {way : List String} (hparted : Path.Parted segments way) :
    (t.setInPlace segments node).tree.find? way = t.find? way := by
  obtain ⟨hne, hmem, -⟩ := setInPlace_result_eq_ok_iff.mp h
  cases segments with
  | nil => exact absurd rfl hne
  | cons key rest =>
    rw [setInPlace_cons t node hmem] at h ⊢
    exact find?_write_parted h hparted

theorem setPath_eq_ok_iff {t t' : Tree} {path : String} :
    t.setPath path node = .ok t' ↔
      (t.setInPlace (Path.keys path) node).result = .ok () ∧
        (t.setInPlace (Path.keys path) node).tree = t' :=
  Written.toExcept_eq_ok_iff

/-- Binding a key of the root is a write at the end of one segment. -/
theorem assignInPlace_eq_setInPlace (t : Tree) (key : String) (node : Node) :
    t.assignInPlace key node = t.setInPlace [key] node := by
  by_cases h : key = ""
  · have hmem : "" ∈ [key] := List.mem_singleton.mpr h.symm
    rw [assignInPlace, if_pos h, setInPlace, if_pos hmem, Path.dotted_singleton]
  · have hmem : "" ∉ [key] := by
      intro hin
      exact h (List.mem_singleton.mp hin).symm
    rw [assignInPlace, if_neg h, setInPlace_cons t node hmem, write, List.nil_append,
      Path.dotted_singleton]

end Set

/-! ### Reading what was written -/

/-- Every lookup after a write that succeeded: at the path it gives the new node, below the path
what the new node binds there, above it a tree, and where it parts from the path what it gave
before. There is no other place for a lookup. -/
theorem lookup_setPath {t t' : Tree} {path : String} {node : Node}
    (h : t.setPath path node = .ok t') (q : String) :
    (q = path ∨ (∃ r, q = path ++ "." ++ r) ∨ Path.Above (Path.keys q) (Path.keys path) ∨
      Path.Parted (Path.keys path) (Path.keys q)) ∧
    (q = path → t'.lookup q = .ok node) ∧
    (∀ r, q = path ++ "." ++ r →
      t'.lookup q = answer q (node.tree?.bind fun sub => (sub.lookup r).toOption)) ∧
    (Path.Above (Path.keys q) (Path.keys path) → ∃ sub, t'.lookup q = .ok (.tree sub)) ∧
    (Path.Parted (Path.keys path) (Path.keys q) → t'.lookup q = t.lookup q) := by
  obtain ⟨hok, rfl⟩ := setPath_eq_ok_iff.mp h
  refine ⟨Path.compare_keys path q, ?_, ?_, ?_, ?_⟩
  · rintro rfl
    rw [lookup_eq_ok_iff]
    simpa using find?_setInPlace_append hok []
  · rintro r rfl
    rw [lookup_eq_answer, Path.keys_append, find?_setInPlace_append hok]
    congr 1
    cases hr : Path.keys r with
    | nil => exact absurd hr (Path.keys_ne_nil r)
    | cons key keys =>
      rw [Node.at?]
      congr 1
      funext sub
      rw [toOption_lookup, hr]
  · intro habove
    obtain ⟨sub, hsub⟩ := find?_setInPlace_above hok (Path.keys_ne_nil q) habove
    exact ⟨sub, lookup_eq_ok_iff.mpr hsub⟩
  · intro hparted
    rw [lookup_eq_answer, find?_setInPlace_parted hok hparted, lookup_eq_answer]

/-- A branch is made on the way, and the key beside it stays. -/
theorem lookup_setPath_new_branch :
    ∃ t t' : Tree, t.setPath "server.tls" (.tree (.ofEntries [("port", .string "1")])) = .ok t' ∧
      t'.lookup "server.tls.port" = .ok (.string "1") ∧
      (∃ sub, t'.lookup "server" = .ok (.tree sub)) ∧
      t'.lookup "server.host" = t.lookup "server.host" ∧
      t.lookup "server.host" = .ok (.string "h") := by
  let t : Tree := ofEntries [("server", .tree (ofEntries [("host", .string "h")]))]
  let node : Node := .tree (ofEntries [("port", .string "1")])
  let t' : Tree := ofEntries
    [("server", .tree (ofEntries [("host", .string "h"), ("tls", node)]))]
  have h : t.setPath "server.tls" node = .ok t' := by rfl
  have habove : Path.Above ["server"] ["server", "tls"] :=
    Path.above_iff_exists.mpr ⟨"tls", [], rfl⟩
  have hparted : Path.Parted ["server", "tls"] ["server", "host"] := .there (.here (by decide))
  exact ⟨t, t', h, (lookup_setPath h "server.tls.port").2.2.1 "port" rfl,
    (lookup_setPath h "server").2.2.2.1 habove,
    (lookup_setPath h "server.host").2.2.2.2 hparted, rfl⟩

end ConfigLayers.Tree
