import ConfigLayers.Proofs.Tree.Writes

/-!
# Why writes fail

A write at the end of segments looks for three faults, one after the other. The segments are checked
before the walk; the walk stops at the first leaf on its way; and at the end no key may change
between tree and leaf. `Refusal` says so without a walk. A write fails with exactly the error of the
fault that is there, and then it leaves the tree it found.
-/

namespace ConfigLayers.Tree

variable {t : Tree} {node : Node}

/-! ### Leaves on a way -/

/-- The shortest proper beginning of the way that is bound to a leaf. -/
structure FirstLeaf (t : Tree) (way upper : List String) (leaf : Node) : Prop where
  above : Path.Above upper way
  bound : t.find? upper = some leaf
  isLeaf : leaf.isTree = false
  shortest : ∀ shorter old, Path.Above shorter upper → t.find? shorter = some old →
    old.isTree = true

/-- No leaf is bound below another one, so that the first leaf on a way is the only one. -/
theorem firstLeaf_of_bound {way upper : List String} {leaf : Node} (habove : Path.Above upper way)
    (hbound : t.find? upper = some leaf) (hleaf : leaf.isTree = false) :
    FirstLeaf t way upper leaf := by
  refine ⟨habove, hbound, hleaf, ?_⟩
  intro shorter old hshorter hold
  have hne : shorter ≠ [] := by
    rintro rfl
    exact absurd hold (by simp)
  obtain ⟨sub, hsub⟩ := exists_tree_of_find?_above hne hshorter hbound
  rw [hsub, Option.some.injEq] at hold
  rw [← hold, Node.isTree_tree]

/-- A way is open if and only if there is no leaf on it and what is bound at its end, if anything,
is of the same sort as the node. -/
theorem open_iff {way : List String} :
    Open t way node ↔ (∀ upper leaf, ¬ FirstLeaf t way upper leaf) ∧
      ∀ old, t.find? way = some old → old.isTree = node.isTree := by
  constructor
  · intro hopen
    refine ⟨?_, hopen.last⟩
    intro upper leaf hfirst
    have htree := hopen.above upper leaf hfirst.above hfirst.bound
    rw [hfirst.isLeaf] at htree
    exact absurd htree (by simp)
  · rintro ⟨hfree, hlast⟩
    refine ⟨?_, hlast⟩
    intro upper old habove hold
    cases hkind : old.isTree with
    | true => rfl
    | false => exact absurd (firstLeaf_of_bound habove hold hkind) (hfree upper old)

/-- Where a walk finds a leaf on its way, the key is bound to it. -/
theorem get?_of_leaf {key : String} {leaf : Node}
    (h : (t.get? key).getD (.tree empty) = leaf) (hleaf : leaf.isTree = false) :
    t.get? key = some leaf := by
  cases hget : t.get? key with
  | none =>
    rw [hget, Option.getD_none] at h
    rw [← h] at hleaf
    exact absurd hleaf (by simp)
  | some old =>
    rw [hget, Option.getD_some] at h
    rw [h]

theorem find?_of_leaf {key : String} {leaf : Node}
    (h : (t.get? key).getD (.tree empty) = leaf) (hleaf : leaf.isTree = false) (next : String)
    (rest : List String) : t.find? (key :: next :: rest) = none := by
  rw [find?_cons, get?_of_leaf h hleaf, Option.bind_some, Node.at?_of_leaf hleaf]

/-! ### Faults on a walk -/

section Walk

variable {before : List String} {key : String} {rest : List String}

/-- A walk stops at the leaf on its way. -/
theorem write_result_of_leaf {upper : List String} {leaf : Node}
    (habove : Path.Above upper (key :: rest)) (hbound : t.find? upper = some leaf)
    (hleaf : leaf.isTree = false) :
    (t.write node before key rest).result =
      .error (.kindConflict (Path.dotted (before ++ upper)) leaf.kind .tree) := by
  induction rest generalizing t before key upper with
  | nil =>
    cases upper with
    | nil => exact absurd hbound (by simp)
    | cons a p => exact absurd (Path.above_cons_cons.mp habove).2 (Path.not_above_nil p)
  | cons next rest ih =>
    match upper with
    | [] => exact absurd hbound (by simp)
    | [a] =>
      -- the leaf is what the first key is bound to
      obtain ⟨rfl, -⟩ := Path.above_cons_cons.mp habove
      rw [find?_singleton] at hbound
      rcases write_cons t node before a next rest with ⟨sub, hsub, -⟩ | ⟨old, hold, -, hw⟩
      · rw [hbound, Option.getD_some] at hsub
        rw [hsub] at hleaf
        exact absurd hleaf (by simp)
      · rw [hbound, Option.getD_some] at hold
        rw [hw, hold]
    | a :: b :: p =>
      obtain ⟨rfl, hp⟩ := Path.above_cons_cons.mp habove
      rcases write_cons t node before a next rest with ⟨sub, hsub, hw⟩ | ⟨old, hold, hkind, -⟩
      · rw [find?_of_branch hsub] at hbound
        rw [hw, Written.result_under, ih hp hbound, List.append_assoc, List.singleton_append]
      · rw [find?_of_leaf hold hkind] at hbound
        exact absurd hbound (by simp)

/-- At the end of a walk no key changes between tree and leaf. -/
theorem write_result_of_conflict {old : Node} (hbound : t.find? (key :: rest) = some old)
    (hkind : old.isTree ≠ node.isTree) :
    (t.write node before key rest).result =
      .error (.kindConflict (Path.dotted (before ++ key :: rest)) old.kind node.kind) := by
  induction rest generalizing t before key with
  | nil =>
    rw [find?_singleton] at hbound
    simp [write, bind, hbound, hkind]
  | cons next rest ih =>
    rcases write_cons t node before key next rest with ⟨sub, hsub, hw⟩ | ⟨leaf, hget, hleaf, -⟩
    · rw [find?_of_branch hsub] at hbound
      rw [hw, Written.result_under, ih hbound, List.append_assoc, List.singleton_append]
    · rw [find?_of_leaf hget hleaf] at hbound
      exact absurd hbound (by simp)

end Walk

/-! ### Faults of a write -/

/-- Why the node cannot be bound at the end of the segments, as the error of the write. -/
inductive Refusal (t : Tree) (segments : List String) (node : Node) : Error → Prop
  /-- There is no segment, or one of them is empty. -/
  | segments (h : segments = [] ∨ "" ∈ segments) :
      Refusal t segments node (.invalidPath (Path.dotted segments))
  /-- The way leads through a leaf. -/
  | leaf {upper : List String} {leaf : Node} (hne : segments ≠ []) (hmem : "" ∉ segments)
      (h : FirstLeaf t segments upper leaf) :
      Refusal t segments node (.kindConflict (Path.dotted upper) leaf.kind .tree)
  /-- The way leads to its end, and there either a tree would become a leaf or a leaf a tree. -/
  | last {old : Node} (hne : segments ≠ []) (hmem : "" ∉ segments)
      (hfree : ∀ upper leaf, ¬ FirstLeaf t segments upper leaf)
      (hold : t.find? segments = some old) (hkind : old.isTree ≠ node.isTree) :
      Refusal t segments node (.kindConflict (Path.dotted segments) old.kind node.kind)

variable {segments : List String}

/-- A fault is reported. -/
theorem setInPlace_result_of_refusal {error : Error} (h : Refusal t segments node error) :
    (t.setInPlace segments node).result = .error error := by
  cases h with
  | segments h =>
    cases segments with
    | nil => rfl
    | cons key rest =>
      have hmem : "" ∈ key :: rest := h.resolve_left (List.cons_ne_nil key rest)
      rw [setInPlace, if_pos hmem]
  | leaf hne hmem h =>
    cases segments with
    | nil => exact absurd rfl hne
    | cons key rest =>
      rw [setInPlace_cons t node hmem, write_result_of_leaf h.above h.bound h.isLeaf,
        List.nil_append]
  | last hne hmem _ hold hkind =>
    cases segments with
    | nil => exact absurd rfl hne
    | cons key rest =>
      rw [setInPlace_cons t node hmem, write_result_of_conflict hold hkind, List.nil_append]

/-- A write that does not succeed has a fault. -/
theorem exists_refusal (h : (t.setInPlace segments node).result ≠ .ok ()) :
    ∃ error, Refusal t segments node error := by
  by_cases hinvalid : segments = [] ∨ "" ∈ segments
  · exact ⟨_, .segments hinvalid⟩
  · obtain ⟨hne, hmem⟩ := not_or.mp hinvalid
    by_cases hleaf : ∃ upper leaf, FirstLeaf t segments upper leaf
    · obtain ⟨upper, leaf, hfirst⟩ := hleaf
      exact ⟨_, .leaf hne hmem hfirst⟩
    · have hfree : ∀ upper leaf, ¬ FirstLeaf t segments upper leaf :=
        fun upper leaf hfirst => hleaf ⟨upper, leaf, hfirst⟩
      by_cases hlast : ∃ old, t.find? segments = some old ∧ old.isTree ≠ node.isTree
      · obtain ⟨old, hold, hkind⟩ := hlast
        exact ⟨_, .last hne hmem hfree hold hkind⟩
      · -- without a fault the write would have succeeded
        have hopen : Open t segments node := by
          refine open_iff.mpr ⟨hfree, ?_⟩
          intro old hold
          exact Classical.byContradiction fun hkind => hlast ⟨old, hold, hkind⟩
        exact absurd (setInPlace_result_eq_ok_iff.mpr ⟨hne, hmem, hopen⟩) h

/-- A write fails with an error if and only if the fault of this error is there, and succeeds if and
only if none is. A write that fails leaves the tree it found. -/
theorem setInPlace_result_iff (t : Tree) (segments : List String) (node : Node) :
    (∀ error, (t.setInPlace segments node).result = .error error ↔
      Refusal t segments node error) ∧
    ((t.setInPlace segments node).result = .ok () ↔
      segments ≠ [] ∧ "" ∉ segments ∧ (∀ upper leaf, ¬ FirstLeaf t segments upper leaf) ∧
        ∀ old, t.find? segments = some old → old.isTree = node.isTree) ∧
    (∀ error, (t.setInPlace segments node).result = .error error →
      (t.setInPlace segments node).tree = t) := by
  refine ⟨?_, ?_, ?_⟩
  · intro error
    constructor
    · intro herror
      have hnot : (t.setInPlace segments node).result ≠ .ok () := by
        rw [herror]
        simp
      obtain ⟨found, hfound⟩ := exists_refusal hnot
      -- the write reports the fault that is there, so that the two errors are one
      rw [setInPlace_result_of_refusal hfound, Except.error.injEq] at herror
      rw [← herror]
      exact hfound
    · exact setInPlace_result_of_refusal
  · rw [setInPlace_result_eq_ok_iff, open_iff]
  · intro error herror
    exact tree_setInPlace_of_error herror

/-- A write below a leaf names the leaf, not its own end, and makes no branch. -/
theorem setInPlace_result_below_leaf :
    let t : Tree := ofEntries [("a", .tree (ofEntries [("b", .string "x")]))]
    let w := t.setInPlace ["a", "b", "c", "d"] (.string "y")
    w.result = .error (.kindConflict "a.b" .string .tree) ∧ w.tree = t := by
  intro t w
  obtain ⟨herror, -, hleft⟩ := setInPlace_result_iff t ["a", "b", "c", "d"] (.string "y")
  have habove : Path.Above ["a", "b"] ["a", "b", "c", "d"] :=
    Path.above_iff_exists.mpr ⟨"c", ["d"], rfl⟩
  have hfirst : FirstLeaf t ["a", "b", "c", "d"] ["a", "b"] (.string "x") :=
    firstLeaf_of_bound habove rfl rfl
  have hpath : Path.dotted ["a", "b"] = "a.b" := by decide
  have hresult : w.result = .error (.kindConflict "a.b" .string .tree) := by
    apply (herror _).mpr
    rw [← hpath]
    exact .leaf (List.cons_ne_nil _ _) (by decide) hfirst
  exact ⟨hresult, hleft _ hresult⟩

end ConfigLayers.Tree
