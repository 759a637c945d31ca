import ConfigLayers.Proofs.Text.Segments
import ConfigLayers.Tree.Paths

/-!
# Ways through a tree

A way is the list of the keys that a read follows. Of two different ways one lies above the other,
or they part at some key. What a tree binds at the end of a long way it finds piecewise: first the
node at the end of a beginning, then what this node binds at the end of the rest.
-/

namespace ConfigLayers

namespace Path

/-! ### Comparing ways -/

/-- `upper` is a proper beginning of `lower`. -/
def Above (upper lower : List String) : Prop := upper <+: lower ∧ upper ≠ lower

/-- After a common beginning the two ways go on with different keys. -/
inductive Parted : List String → List String → Prop
  | here {a b : String} {p q : List String} (h : a ≠ b) : Parted (a :: p) (b :: q)
  | there {a : String} {p q : List String} (h : Parted p q) : Parted (a :: p) (a :: q)

theorem above_iff_exists {upper lower : List String} :
    Above upper lower ↔ ∃ key keys, lower = upper ++ key :: keys := by
  constructor
  · rintro ⟨⟨rest, rfl⟩, hne⟩
    cases rest with
    | nil => exact absurd (List.append_nil upper).symm hne
    | cons key keys => exact ⟨key, keys, rfl⟩
  · rintro ⟨key, keys, rfl⟩
    refine ⟨List.prefix_append upper _, ?_⟩
    intro heq
    exact List.cons_ne_nil key keys (List.self_eq_append_right.mp heq)

theorem not_above_nil (upper : List String) : ¬ Above upper [] := by
  rintro ⟨hstart, hne⟩
  exact hne (List.prefix_nil.mp hstart)

theorem nil_above_cons (key : String) (keys : List String) : Above [] (key :: keys) :=
  above_iff_exists.mpr ⟨key, keys, rfl⟩

theorem above_cons_cons {a b : String} {p q : List String} :
    Above (a :: p) (b :: q) ↔ a = b ∧ Above p q := by
  constructor
  · rintro ⟨hstart, hne⟩
    obtain ⟨rfl, hpq⟩ := List.cons_prefix_cons.mp hstart
    exact ⟨rfl, hpq, fun heq => hne (heq ▸ rfl)⟩
  · rintro ⟨rfl, hstart, hne⟩
    exact ⟨List.cons_prefix_cons.mpr ⟨rfl, hstart⟩, fun heq => hne (List.cons.inj heq).2⟩

/-- Two ways are the same, one of them lies above the other, or they part. -/
theorem compare (p q : List String) : p = q ∨ Above p q ∨ Above q p ∨ Parted p q := by
  induction p generalizing q with
  | nil =>
    cases q with
    | nil => exact .inl rfl
    | cons b q => exact .inr (.inl (nil_above_cons b q))
  | cons a p ih =>
    cases q with
    | nil => exact .inr (.inr (.inl (nil_above_cons a p)))
    | cons b q =>
      by_cases hab : a = b
      · subst hab
        rcases ih q with rfl | h | h | h
        · exact .inl rfl
        · exact .inr (.inl (above_cons_cons.mpr ⟨rfl, h⟩))
        · exact .inr (.inr (.inl (above_cons_cons.mpr ⟨rfl, h⟩)))
        · exact .inr (.inr (.inr (.there h)))
      · exact .inr (.inr (.inr (.here hab)))

theorem Parted.symm {p q : List String} (h : Parted p q) : Parted q p := by
  induction h with
  | here hne => exact .here hne.symm
  | there _ ih => exact .there ih

/-! ### Dotted paths -/

/-- A path put together around a dot has the keys of both parts. -/
theorem keys_append (p q : String) : keys (p ++ "." ++ q) = keys p ++ keys q :=
  Text.segments_append_sep '.' p q

theorem keys_ne_nil (path : String) : keys path ≠ [] := Text.segments_ne_nil '.' path

@[simp] theorem dotted_keys (path : String) : dotted (keys path) = path :=
  Text.join_segments '.' path

@[simp] theorem dotted_singleton (key : String) : dotted [key] = key := by
  rw [dotted, Text.join, List.map_singleton, Text.glue, String.ofList_toList]

theorem keys_injective {p q : String} (h : keys p = keys q) : p = q := Text.segments_injective h

/-- Segments without dots, at least one, are the keys of a path. -/
theorem keys_dotted {way : List String} (hne : way ≠ []) (h : ∀ key ∈ way, '.' ∉ key.toList) :
    keys (dotted way) = way :=
  Text.segments_join hne h

/-- Any keys of a path in a row are the keys of a path again. -/
theorem exists_keys_eq {path : String} {way : List String} (hne : way ≠ [])
    (h : way <:+: keys path) : ∃ part, keys part = way := by
  refine ⟨dotted way, keys_dotted hne ?_⟩
  intro key hkey
  exact Text.sep_notMem_of_mem_segments (h.subset hkey)

/-- What lies above a path is the path of a beginning of its keys. -/
theorem exists_path_of_above {upper : List String} {path : String} (hne : upper ≠ [])
    (h : Above upper (keys path)) : ∃ part, keys part = upper :=
  exists_keys_eq hne h.1.isInfix

/-- A path that another one lies above continues it after a dot. -/
theorem exists_append_of_above {p q : String} (h : Above (keys p) (keys q)) :
    ∃ r, q = p ++ "." ++ r := by
  obtain ⟨key, rest, heq⟩ := above_iff_exists.mp h
  have hrest : (key :: rest) <:+ keys q := heq ▸ List.suffix_append _ _
  obtain ⟨r, hr⟩ := exists_keys_eq (List.cons_ne_nil key rest) hrest.isInfix
  refine ⟨r, keys_injective ?_⟩
  rw [keys_append, hr, heq]

theorem above_append (p r : String) : Above (keys p) (keys (p ++ "." ++ r)) := by
  rw [keys_append]
  cases hr : keys r with
  | nil => exact absurd hr (keys_ne_nil r)
  | cons key rest => exact above_iff_exists.mpr ⟨key, rest, rfl⟩

/-- Where one path lies as seen from another one. -/
theorem compare_keys (path q : String) :
    q = path ∨ (∃ r, q = path ++ "." ++ r) ∨ Above (keys q) (keys path) ∨
      Parted (keys path) (keys q) := by
  rcases compare (keys path) (keys q) with h | h | h | h
  · exact .inl (keys_injective h.symm)
  · exact .inr (.inl (exists_append_of_above h))
  · exact .inr (.inr (.inl h))
  · exact .inr (.inr (.inr h))

end Path

/-! ### Reading piecewise -/

/-- The node at the end of a way that starts at a node. -/
def Node.at? (node : Node) : List String → Option Node
  | [] => some node
  | key :: keys => node.tree?.bind (·.find? (key :: keys))

@[simp] theorem Node.at?_nil (node : Node) : node.at? [] = some node := rfl

theorem Node.at?_of_ne_nil (node : Node) {keys : List String} (h : keys ≠ []) :
    node.at? keys = node.tree?.bind (·.find? keys) := by
  cases keys with
  | nil => exact absurd rfl h
  | cons key rest => rfl

theorem Node.at?_tree (t : Tree) {keys : List String} (h : keys ≠ []) :
    (Node.tree t).at? keys = t.find? keys :=
  at?_of_ne_nil _ h

@[simp] theorem Node.isTree_tree (t : Tree) : (Node.tree t).isTree = true := rfl

theorem Node.isTree_iff {node : Node} : node.isTree = true ↔ ∃ t, node = .tree t := by
  cases node <;> simp [isTree]

theorem Node.string?_eq_some_iff {node : Node} {s : String} :
    node.string? = some s ↔ node = .string s := by
  cases node <;> simp [string?]

theorem Node.tree?_eq_some_iff {node : Node} {t : Tree} :
    node.tree? = some t ↔ node = .tree t := by
  cases node <;> simp [tree?]

theorem Node.tree?_eq_none {node : Node} (h : node.isTree = false) : node.tree? = none := by
  cases node <;> simp_all [isTree, tree?]

/-- Below a leaf nothing is bound. -/
theorem Node.at?_of_leaf {node : Node} (h : node.isTree = false) (key : String)
    (keys : List String) : node.at? (key :: keys) = none := by
  rw [at?, tree?_eq_none h, Option.bind_none]

namespace Tree

@[simp] theorem find?_nil (t : Tree) : t.find? [] = none := rfl

theorem find?_singleton (t : Tree) (key : String) : t.find? [key] = t.get? key := rfl

theorem find?_cons (t : Tree) (key : String) (keys : List String) :
    t.find? (key :: keys) = (t.get? key).bind (·.at? keys) := by
  cases keys with
  | nil =>
    rw [find?_singleton]
    cases t.get? key <;> rfl
  | cons next rest =>
    rw [find?]
    cases hget : t.get? key with
    | none => rfl
    | some node => cases node <;> rfl

@[simp] theorem find?_empty (way : List String) : empty.find? way = none := by
  cases way with
  | nil => rfl
  | cons key keys => rw [find?_cons, get?_empty, Option.bind_none]

/-- What lies at the end of a way lies at the end of its rest below the node of a beginning. -/
theorem find?_append (t : Tree) {p : List String} (hp : p ≠ []) (q : List String) :
    t.find? (p ++ q) = (t.find? p).bind (·.at? q) := by
  induction p generalizing t with
  | nil => exact absurd rfl hp
  | cons key p ih =>
    rw [List.cons_append, find?_cons, find?_cons, Option.bind_assoc]
    congr 1
    funext node
    cases p with
    | nil => rfl
    | cons next rest =>
      rw [List.cons_append, Node.at?, Node.at?, ← List.cons_append, Option.bind_assoc]
      congr 1
      funext sub
      exact ih sub (List.cons_ne_nil next rest)

/-- What is bound below a way is bound through a tree at its end. -/
theorem exists_tree_of_find?_above {t : Tree} {upper lower : List String} {node : Node}
    (hne : upper ≠ []) (habove : Path.Above upper lower) (h : t.find? lower = some node) :
    ∃ sub, t.find? upper = some (.tree sub) := by
  obtain ⟨key, keys, rfl⟩ := Path.above_iff_exists.mp habove
  rw [find?_append t hne, Option.bind_eq_some_iff] at h
  obtain ⟨mid, hmid, hat⟩ := h
  cases hsub : mid.tree? with
  | none =>
    rw [Node.at?, hsub] at hat
    exact absurd hat (by simp)
  | some sub =>
    refine ⟨sub, ?_⟩
    rw [hmid]
    cases mid <;> simp_all [Node.tree?]

/-- What a lookup of a path says when it comes to a node, or to none. -/
def answer (path : String) : Option Node → Except Error Node
  | some node => .ok node
  | none => .error (.notBound path)

theorem lookup_eq_answer (t : Tree) (path : String) :
    t.lookup path = answer path (t.find? (Path.keys path)) := by
  rw [lookup]
  cases t.find? (Path.keys path) <;> rfl

theorem lookup_eq_ok_iff {t : Tree} {path : String} {node : Node} :
    t.lookup path = .ok node ↔ t.find? (Path.keys path) = some node := by
  rw [lookup_eq_answer]
  cases t.find? (Path.keys path) <;> simp [answer]

@[simp] theorem toOption_lookup (t : Tree) (path : String) :
    (t.lookup path).toOption = t.find? (Path.keys path) := by
  rw [lookup_eq_answer]
  cases t.find? (Path.keys path) <;> rfl

end Tree

end ConfigLayers
