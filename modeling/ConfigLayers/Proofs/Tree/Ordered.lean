import ConfigLayers.Proofs.Documents
import ConfigLayers.Proofs.Tree.Writes

/-!
# Trees stay ordered

What an ordered tree binds is ordered at every depth, and a write of an ordered node keeps a tree
ordered, whether it succeeds or not.
-/

namespace ConfigLayers

/-- One more ordered item keeps a list ordered. -/
theorem Node.itemsOrdered_concat {items : List Node} {item : Node} (h : ItemsOrdered items)
    (hitem : item.Ordered) : ItemsOrdered (items ++ [item]) := by
  induction items with
  | nil => exact ⟨hitem, trivial⟩
  | cons first items ih => exact ⟨h.1, ih h.2⟩

namespace Tree

variable {t : Tree} {node : Node}

theorem ordered_empty : empty.Ordered := ⟨Keyed.ascending_nil, trivial⟩

/-- What an ordered tree binds at the end of a way is ordered. -/
theorem Ordered.of_find? {way : List String} (h : t.Ordered) (hfind : t.find? way = some node) :
    node.Ordered := by
  induction way generalizing t with
  | nil => exact absurd hfind (by simp)
  | cons key rest ih =>
    rw [find?_cons, Option.bind_eq_some_iff] at hfind
    obtain ⟨child, hget, hat⟩ := hfind
    have hchild : child.Ordered := h.of_get? hget
    cases rest with
    | nil =>
      rw [Node.at?_nil, Option.some.injEq] at hat
      exact hat ▸ hchild
    | cons next rest =>
      rw [Node.at?, Option.bind_eq_some_iff] at hat
      obtain ⟨sub, hsub, hrest⟩ := hat
      obtain rfl := Node.tree?_eq_some_iff.mp hsub
      exact ih hchild hrest

theorem Ordered.insert (h : t.Ordered) (key : String) (hnode : node.Ordered) :
    (t.insert key node).Ordered := by
  obtain ⟨es⟩ := t
  refine ⟨h.1.insert key node, entriesOrdered_iff.mpr ?_⟩
  intro entry hentry
  rcases Keyed.mem_insert hentry with rfl | hentry
  · exact hnode
  · exact entriesOrdered_iff.mp h.2 entry hentry

theorem Ordered.tree_bind (h : t.Ordered) (hnode : node.Ordered) (label key : String) :
    (t.bind label key node).tree.Ordered := by
  rw [bind]
  split
  · split
    · exact h.insert key hnode
    · exact h
  · exact h.insert key hnode

/-- The tree of a key is ordered, and so is the new one of a key without. -/
theorem Ordered.of_branch (h : t.Ordered) {key : String} {sub : Tree}
    (hsub : (t.get? key).getD (.tree empty) = .tree sub) : sub.Ordered := by
  cases hget : t.get? key with
  | none =>
    rw [hget, Option.getD_none, Node.tree.injEq] at hsub
    exact hsub ▸ ordered_empty
  | some child =>
    rw [hget, Option.getD_some] at hsub
    have hchild : child.Ordered := h.of_get? hget
    rwa [hsub] at hchild

theorem Ordered.tree_write (h : t.Ordered) (hnode : node.Ordered) (before : List String)
    (key : String) (rest : List String) : (t.write node before key rest).tree.Ordered := by
  induction rest generalizing t before key with
  | nil => exact h.tree_bind hnode _ key
  | cons next rest ih =>
    rcases write_cons t node before key next rest with ⟨sub, hsub, hw⟩ | ⟨leaf, -, -, hw⟩
    · rw [hw, Written.tree_under]
      exact h.insert key (ih (h.of_branch hsub) _ next)
    · rw [hw]
      exact h

theorem Ordered.tree_setInPlace (h : t.Ordered) (hnode : node.Ordered) (segments : List String) :
    (t.setInPlace segments node).tree.Ordered := by
  cases segments with
  | nil => exact h
  | cons key rest =>
    rw [setInPlace]
    split
    · exact h
    · exact h.tree_write hnode [] key rest

end Tree

end ConfigLayers
