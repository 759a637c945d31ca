import ConfigLayers.Proofs.Tree.Writes

/-!
# Writing leaves

Which paths a tree binds to leaves and which to trees. A leaf can be written at a path if and only
if no leaf is above it and no tree at it. The write makes the path a leaf and all above it trees,
and no other path changes at all: what would lie below the new leaf was not bound before either.
-/

namespace ConfigLayers.Tree

/-- The path is bound to a leaf. -/
def BindsLeaf (t : Tree) (path : String) : Prop :=
  ∃ node, t.lookup path = .ok node ∧ node.isTree = false

/-- The path is bound to a tree. -/
def BindsTree (t : Tree) (path : String) : Prop := ∃ sub, t.lookup path = .ok (.tree sub)

variable {t : Tree} {path q : String} {node : Node}

theorem bindsLeaf_iff :
    t.BindsLeaf path ↔ ∃ node, t.find? (Path.keys path) = some node ∧ node.isTree = false := by
  simp only [BindsLeaf, lookup_eq_ok_iff]

theorem bindsTree_iff :
    t.BindsTree path ↔ ∃ sub, t.find? (Path.keys path) = some (.tree sub) := by
  simp only [BindsTree, lookup_eq_ok_iff]

/-- Paths bound to the same nodes are bound to leaves alike. -/
theorem bindsLeaf_congr {t' : Tree} (h : t'.find? (Path.keys path) = t.find? (Path.keys path)) :
    t'.BindsLeaf path ↔ t.BindsLeaf path := by
  rw [bindsLeaf_iff, bindsLeaf_iff, h]

/-- Paths bound to the same nodes are bound to trees alike. -/
theorem bindsTree_congr {t' : Tree} (h : t'.find? (Path.keys path) = t.find? (Path.keys path)) :
    t'.BindsTree path ↔ t.BindsTree path := by
  rw [bindsTree_iff, bindsTree_iff, h]

theorem BindsLeaf.not_bindsTree (h : t.BindsLeaf path) : ¬ t.BindsTree path := by
  rintro ⟨sub, hsub⟩
  obtain ⟨node, hnode, hleaf⟩ := h
  rw [hnode, Except.ok.injEq] at hsub
  rw [hsub, Node.isTree_tree] at hleaf
  exact absurd hleaf (by simp)

/-- Above what is bound stand trees. -/
theorem bindsTree_of_above (habove : Path.Above (Path.keys path) (Path.keys q))
    (h : t.find? (Path.keys q) = some node) : t.BindsTree path :=
  bindsTree_iff.mpr (exists_tree_of_find?_above (Path.keys_ne_nil path) habove h)

/-- The way of a path is open for a leaf if and only if no leaf is above it and no tree at it. -/
theorem open_keys_iff (hleaf : node.isTree = false) :
    Open t (Path.keys path) node ↔
      (∀ upper, Path.Above (Path.keys upper) (Path.keys path) → ¬ t.BindsLeaf upper) ∧
        ¬ t.BindsTree path := by
  constructor
  · intro hopen
    refine ⟨?_, ?_⟩
    · intro upper habove hbinds
      obtain ⟨old, hold, hkind⟩ := bindsLeaf_iff.mp hbinds
      rw [hopen.above _ old habove hold] at hkind
      exact absurd hkind (by simp)
    · intro hbinds
      obtain ⟨sub, hsub⟩ := bindsTree_iff.mp hbinds
      have hkind := hopen.last _ hsub
      rw [hleaf, Node.isTree_tree] at hkind
      exact absurd hkind (by simp)
  · rintro ⟨hupper, htree⟩
    refine ⟨?_, ?_⟩
    · intro way old habove hold
      cases hkind : old.isTree with
      | true => rfl
      | false =>
        have hne : way ≠ [] := by
          rintro rfl
          exact absurd hold (by simp)
        obtain ⟨upper, rfl⟩ := Path.exists_path_of_above hne habove
        exact absurd (bindsLeaf_iff.mpr ⟨old, hold, hkind⟩) (hupper upper habove)
    · intro old hold
      cases hkind : old.isTree with
      | false => exact hleaf.symm
      | true =>
        obtain ⟨sub, rfl⟩ := Node.isTree_iff.mp hkind
        exact absurd (bindsTree_iff.mpr ⟨sub, hold⟩) htree

/-! ### Leaves at the end of a path -/

section Write

variable (hleaf : node.isTree = false)
  (h : (t.setInPlace (Path.keys path) node).result = .ok ())

include h in
theorem find?_write_leaf_self :
    (t.setInPlace (Path.keys path) node).tree.find? (Path.keys path) = some node := by
  have hend := find?_setInPlace_append h []
  rwa [List.append_nil, Node.at?_nil] at hend

include hleaf h in
/-- Only the path and the paths above it change when a leaf is written. -/
theorem find?_write_leaf_of_ne (hne : q ≠ path)
    (habove : ¬ Path.Above (Path.keys q) (Path.keys path)) :
    (t.setInPlace (Path.keys path) node).tree.find? (Path.keys q) = t.find? (Path.keys q) := by
  rcases Path.compare_keys path q with rfl | ⟨r, rfl⟩ | hq | hparted
  · exact absurd rfl hne
  · -- below a leaf nothing is bound afterwards, and below what was no tree nothing was before
    have hnew : (t.setInPlace (Path.keys path) node).tree.find?
        (Path.keys (path ++ "." ++ r)) = none := by
      rw [Path.keys_append, find?_setInPlace_append h]
      cases hr : Path.keys r with
      | nil => exact absurd hr (Path.keys_ne_nil r)
      | cons key keys => exact Node.at?_of_leaf hleaf key keys
    cases hold : t.find? (Path.keys (path ++ "." ++ r)) with
    | none => exact hnew
    | some old =>
      obtain ⟨-, -, hopen⟩ := setInPlace_result_eq_ok_iff.mp h
      exact absurd (bindsTree_of_above (Path.above_append path r) hold)
        ((open_keys_iff hleaf).mp hopen).2
  · exact absurd hq habove
  · exact find?_setInPlace_parted h hparted

include hleaf h in
/-- Every other leaf keeps its node: it is not above the path, whose way is open. -/
theorem find?_write_leaf_of_leaf {other : Node} (hne : q ≠ path)
    (hfind : t.find? (Path.keys q) = some other) (hother : other.isTree = false) :
    (t.setInPlace (Path.keys path) node).tree.find? (Path.keys q) = some other := by
  obtain ⟨-, -, hopen⟩ := setInPlace_result_eq_ok_iff.mp h
  have habove : ¬ Path.Above (Path.keys q) (Path.keys path) := by
    intro habove
    have hbinds : t.BindsLeaf q := bindsLeaf_iff.mpr ⟨other, hfind, hother⟩
    exact ((open_keys_iff hleaf).mp hopen).1 q habove hbinds
  rw [find?_write_leaf_of_ne hleaf h hne habove, hfind]

include hleaf h in
/-- The path becomes a leaf, and no other path becomes one or ceases to be one. -/
theorem bindsLeaf_write_leaf_iff :
    (t.setInPlace (Path.keys path) node).tree.BindsLeaf q ↔ t.BindsLeaf q ∨ q = path := by
  obtain ⟨-, -, hopen⟩ := setInPlace_result_eq_ok_iff.mp h
  obtain ⟨hupper, -⟩ := (open_keys_iff hleaf).mp hopen
  by_cases hq : q = path
  · -- the path itself
    subst hq
    constructor
    · intro _
      exact .inr rfl
    · intro _
      exact bindsLeaf_iff.mpr ⟨node, find?_write_leaf_self h, hleaf⟩
  · by_cases habove : Path.Above (Path.keys q) (Path.keys path)
    · -- a path above it: a tree now, and no leaf before since the way was open
      have htree : (t.setInPlace (Path.keys path) node).tree.BindsTree q :=
        bindsTree_of_above habove (find?_write_leaf_self h)
      constructor
      · intro hbinds
        exact absurd htree hbinds.not_bindsTree
      · rintro (hbinds | heq)
        · exact absurd hbinds (hupper q habove)
        · exact absurd heq hq
    · rw [bindsLeaf_congr (find?_write_leaf_of_ne hleaf h hq habove)]
      constructor
      · exact .inl
      · rintro (hbinds | heq)
        · exact hbinds
        · exact absurd heq hq

include hleaf h in
/-- The paths above become trees, and no other path becomes one or ceases to be one. -/
theorem bindsTree_write_leaf_iff :
    (t.setInPlace (Path.keys path) node).tree.BindsTree q ↔
      t.BindsTree q ∨ Path.Above (Path.keys q) (Path.keys path) := by
  obtain ⟨-, -, hopen⟩ := setInPlace_result_eq_ok_iff.mp h
  obtain ⟨-, htree⟩ := (open_keys_iff hleaf).mp hopen
  by_cases habove : Path.Above (Path.keys q) (Path.keys path)
  · constructor
    · intro _
      exact .inr habove
    · intro _
      exact bindsTree_of_above habove (find?_write_leaf_self h)
  · by_cases hq : q = path
    · -- the path itself: a leaf now, and no tree before since the way was open
      subst hq
      have hnew : (t.setInPlace (Path.keys q) node).tree.BindsLeaf q :=
        bindsLeaf_iff.mpr ⟨node, find?_write_leaf_self h, hleaf⟩
      constructor
      · intro hbinds
        exact absurd hbinds hnew.not_bindsTree
      · rintro (hbinds | hbelow)
        · exact absurd hbinds htree
        · exact absurd hbelow habove
    · rw [bindsTree_congr (find?_write_leaf_of_ne hleaf h hq habove)]
      constructor
      · exact .inl
      · rintro (hbinds | hbelow)
        · exact hbinds
        · exact absurd hbelow habove

end Write

end ConfigLayers.Tree
