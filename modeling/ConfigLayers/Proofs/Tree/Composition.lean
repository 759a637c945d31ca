import ConfigLayers.Proofs.Tree.Ways

/-!
# Lookups one after the other

A path that is put together around a dot is looked up in two lookups: the first part has to lead to
a tree, and the second part is looked up there. So what is bound has trees on all the way to it, and
below a leaf there is nothing. Empty paths and empty segments are no exception: an empty segment is
a key like any other.
-/

namespace ConfigLayers.Tree

variable {t sub : Tree} {node : Node} {p q path upper : String}

/-! ### What a lookup says -/

/-- A lookup that comes to no node says so of the whole path. -/
theorem lookup_of_forall_ne_ok (h : ∀ node, t.lookup path ≠ .ok node) :
    t.lookup path = .error (.notBound path) := by
  rw [lookup_eq_answer] at h ⊢
  cases hfind : t.find? (Path.keys path) with
  | none => rfl
  | some node => exact absurd (congrArg (answer path) hfind) (h node)

theorem isBound_iff_exists_lookup : t.isBound path = true ↔ ∃ node, t.lookup path = .ok node := by
  simp only [isBound, lookup_eq_ok_iff, Option.isSome_iff_exists]

theorem isBound_of_notBound (h : t.lookup path = .error (.notBound path)) :
    t.isBound path = false := by
  rw [Bool.eq_false_iff, ne_eq, isBound_iff_exists_lookup, h]
  simp

/-! ### Two lookups -/

/-- A path around a dot leads where its second part leads in the tree of the first. -/
theorem lookup_append_eq_ok_iff :
    t.lookup (p ++ "." ++ q) = .ok node ↔
      ∃ sub, t.lookup p = .ok (.tree sub) ∧ sub.lookup q = .ok node := by
  simp only [lookup_eq_ok_iff]
  rw [Path.keys_append, find?_append t (Path.keys_ne_nil p), Option.bind_eq_some_iff]
  constructor
  · rintro ⟨mid, hmid, hat⟩
    rw [Node.at?_of_ne_nil mid (Path.keys_ne_nil q), Option.bind_eq_some_iff] at hat
    obtain ⟨sub, hsub, hfind⟩ := hat
    rw [Node.tree?_eq_some_iff.mp hsub] at hmid
    exact ⟨sub, hmid, hfind⟩
  · rintro ⟨sub, hsub, hfind⟩
    refine ⟨.tree sub, hsub, ?_⟩
    rw [Node.at?_tree sub (Path.keys_ne_nil q), hfind]

/-- Above what is bound there are trees. -/
theorem exists_lookup_tree_of_above (habove : Path.Above (Path.keys upper) (Path.keys path))
    (h : t.isBound path = true) : ∃ sub, t.lookup upper = .ok (.tree sub) := by
  obtain ⟨node, hnode⟩ := isBound_iff_exists_lookup.mp h
  obtain ⟨sub, hsub⟩ := exists_tree_of_find?_above (Path.keys_ne_nil upper) habove
    (lookup_eq_ok_iff.mp hnode)
  exact ⟨sub, lookup_eq_ok_iff.mpr hsub⟩

theorem isBound_beginning (hstart : Path.keys upper <+: Path.keys path)
    (h : t.isBound path = true) : t.isBound upper = true := by
  by_cases heq : Path.keys upper = Path.keys path
  · rwa [Path.keys_injective heq]
  · obtain ⟨sub, hsub⟩ := exists_lookup_tree_of_above ⟨hstart, heq⟩ h
    exact isBound_iff_exists_lookup.mpr ⟨_, hsub⟩

/-- Below a leaf nothing is found. -/
theorem lookup_append_of_leaf (h : t.lookup p = .ok node) (hleaf : node.isTree = false)
    (q : String) : t.lookup (p ++ "." ++ q) = .error (.notBound (p ++ "." ++ q)) := by
  apply lookup_of_forall_ne_ok
  intro found hfound
  obtain ⟨sub, hsub, -⟩ := lookup_append_eq_ok_iff.mp hfound
  obtain rfl : node = .tree sub := Except.ok.inj (h.symm.trans hsub)
  exact absurd hleaf (by simp)

/-- A path around a dot leads to a node if and only if its first part leads to a tree and its second
part leads to the node in there. In every other case the lookup names the whole path. So whatever
lies on the way to a bound path is bound, and to a tree if it lies above it, and nothing is found
below a leaf. -/
theorem lookup_composes (t : Tree) (p q : String) :
    (∀ node, t.lookup (p ++ "." ++ q) = .ok node ↔
      ∃ sub, t.lookup p = .ok (.tree sub) ∧ sub.lookup q = .ok node) ∧
    ((¬ ∃ sub node, t.lookup p = .ok (.tree sub) ∧ sub.lookup q = .ok node) →
      t.lookup (p ++ "." ++ q) = .error (.notBound (p ++ "." ++ q))) ∧
    (t.isBound p = true → ∀ upper,
      (Path.keys upper <+: Path.keys p → t.isBound upper = true) ∧
      (Path.Above (Path.keys upper) (Path.keys p) → ∃ sub, t.lookup upper = .ok (.tree sub))) ∧
    (∀ leaf, t.lookup p = .ok leaf → leaf.isTree = false →
      t.lookup (p ++ "." ++ q) = .error (.notBound (p ++ "." ++ q)) ∧
        t.isBound (p ++ "." ++ q) = false) := by
  refine ⟨fun node => lookup_append_eq_ok_iff, ?_, ?_, ?_⟩
  · intro hnone
    apply lookup_of_forall_ne_ok
    intro node hnode
    obtain ⟨sub, hsub, hrest⟩ := lookup_append_eq_ok_iff.mp hnode
    exact hnone ⟨sub, node, hsub, hrest⟩
  · intro hbound upper
    exact ⟨fun hstart => isBound_beginning hstart hbound,
      fun habove => exists_lookup_tree_of_above habove hbound⟩
  · intro leaf hnode hleaf
    have hmissed := lookup_append_of_leaf hnode hleaf q
    exact ⟨hmissed, isBound_of_notBound hmissed⟩

/-- A tree with empty keys and with a list. -/
def dotsAndList : Tree :=
  .ofEntries [("", .tree (.ofEntries [("", .string "x")])), ("l", .list [.string "y"])]

/-- The path of a single dot goes through two empty keys, and the items of a list have no paths. -/
theorem lookup_composes_empty_segments :
    dotsAndList.isBound "." = true ∧ dotsAndList.lookup "." = .ok (.string "x") ∧
      (∃ sub, dotsAndList.lookup "" = .ok (.tree sub)) ∧
      dotsAndList.lookup "l" = .ok (.list [.string "y"]) ∧
      dotsAndList.lookup "l.0" = .error (.notBound "l.0") ∧
      dotsAndList.lookup "..x" = .error (.notBound "..x") := by
  have hdot : "" ++ "." ++ "" = "." := by decide
  have hitem : "l" ++ "." ++ "0" = "l.0" := by decide
  have hlong : "." ++ "." ++ "x" = "..x" := by decide
  have hempty : dotsAndList.lookup "" = .ok (.tree (.ofEntries [("", .string "x")])) := rfl
  have hlist : dotsAndList.lookup "l" = .ok (.list [.string "y"]) := rfl
  have hbound : dotsAndList.isBound "." = true := rfl
  obtain ⟨hfound, -⟩ := lookup_composes dotsAndList "" ""
  obtain ⟨-, -, habove, hbelow⟩ := lookup_composes dotsAndList "." "x"
  obtain ⟨-, -, -, hitems⟩ := lookup_composes dotsAndList "l" "0"
  rw [hdot] at hfound
  rw [hlong] at hbelow
  rw [hitem] at hitems
  have hstring : dotsAndList.lookup "." = .ok (.string "x") :=
    (hfound _).mpr ⟨_, hempty, rfl⟩
  refine ⟨hbound, hstring, ?_, hlist, (hitems _ hlist rfl).1, (hbelow _ hstring rfl).1⟩
  exact (habove hbound "").2 (Path.above_iff_exists.mpr ⟨"", [], by decide⟩)

end ConfigLayers.Tree
