import ConfigLayers.Proofs.Keyed
import ConfigLayers.Proofs.Tree.Calls

/-!
# The order of writes

Two writes whose ways part do not see each other: each of them ends as it would have ended alone,
also if it fails, and the tree is the same in both orders. Of two writes at the end of one way, of
two nodes of the same sort, only the second one shows. So calls that write leaves, at ways of which
none lies above another one, leave the same tree when all of them are made again.
-/

namespace ConfigLayers.Tree

variable {t : Tree} {node node' : Node}

/-! ### Keys of the root -/

theorem insert_insert_self (t : Tree) (key : String) (first second : Node) :
    (t.insert key first).insert key second = t.insert key second :=
  congrArg ofEntries (Keyed.insert_insert_self key first second t.entries)

theorem insert_comm {key other : String} (h : key ≠ other) (t : Tree) (x y : Node) :
    (t.insert other y).insert key x = (t.insert key x).insert other y :=
  congrArg ofEntries (Keyed.insert_comm h x y t.entries)

section Walk

variable {before before' : List String} {key key' : String} {rest rest' : List String}

theorem bind_insert_of_ne {other : String} (h : key ≠ other) (t : Tree) (x : Node)
    (label : String) :
    (t.insert other x).bind label key node =
      ⟨(t.bind label key node).result, (t.bind label key node).tree.insert other x⟩ := by
  rw [bind, bind, get?_insert_of_ne h, insert_comm h]
  cases t.get? key with
  | none => rfl
  | some old => by_cases hkind : old.isTree = node.isTree <;> simp [hkind]

/-- A walk does not see what another key of the root than its own is bound to. -/
theorem write_insert_of_ne {other : String} (h : key ≠ other) (t : Tree) (x : Node) :
    (t.insert other x).write node before key rest =
      ⟨(t.write node before key rest).result,
        (t.write node before key rest).tree.insert other x⟩ := by
  cases rest with
  | nil => exact bind_insert_of_ne h t x _
  | cons next rest =>
    rw [write, write, get?_insert_of_ne h]
    cases (t.get? key).getD (.tree empty) with
    | tree sub => exact congrArg (Written.mk _) (insert_comm h t _ x)
    | _ => rfl

/-- A walk changes nothing at the root but what its own key is bound to. -/
theorem tree_write_eq_insert (t : Tree) (node : Node) (before : List String) (key : String)
    (rest : List String) :
    (t.write node before key rest).tree = t ∨
      ∃ x, (t.write node before key rest).tree = t.insert key x := by
  cases hresult : (t.write node before key rest).result with
  | error error => exact .inl (tree_write_of_error hresult)
  | ok done =>
    cases rest with
    | nil => exact .inr ⟨node, tree_bind_of_ok hresult⟩
    | cons next rest =>
      rcases write_cons t node before key next rest with ⟨sub, -, hw⟩ | ⟨leaf, -, -, hw⟩
      · exact .inr ⟨_, by rw [hw, Written.tree_under]⟩
      · exact .inl (by rw [hw])

/-- Where its first key leads into a tree, a walk goes on in this tree. -/
theorem write_of_branch {sub : Tree} (h : (t.get? key).getD (.tree empty) = .tree sub)
    (node : Node) (before : List String) (next : String) (rest : List String) :
    t.write node before key (next :: rest) =
      (sub.write node (before ++ [key]) next rest).under t key := by
  rw [write, h]

theorem write_insert_self (t sub : Tree) (node : Node) (before : List String) (key next : String)
    (rest : List String) :
    (t.insert key (.tree sub)).write node before key (next :: rest) =
      (sub.write node (before ++ [key]) next rest).under (t.insert key (.tree sub)) key := by
  apply write_of_branch
  rw [get?_insert_self, Option.getD_some]

/-! ### Ways that part -/

/-- Walks from different keys of the root do not see each other. -/
theorem write_write_of_ne (h : key ≠ key') :
    (t.write node before key rest).tree.write node' before' key' rest' =
      ⟨(t.write node' before' key' rest').result,
        ((t.write node' before' key' rest').tree.write node before key rest).tree⟩ := by
  rcases tree_write_eq_insert t node before key rest with hsame | ⟨x, hx⟩
  · rw [hsame]
    apply congrArg (Written.mk _)
    rcases tree_write_eq_insert t node' before' key' rest' with hsame' | ⟨y, hy⟩
    · rw [hsame', hsame]
    · rw [hy, write_insert_of_ne h, hsame]
  · rw [hx, write_insert_of_ne h.symm]
    apply congrArg (Written.mk _)
    rcases tree_write_eq_insert t node' before' key' rest' with hsame' | ⟨y, hy⟩
    · rw [hsame', hx]
    · rw [hy, write_insert_of_ne h, hx, insert_comm h]

/-- Walks whose ways part do not see each other: the second one ends as it would have ended alone,
and they may change places. -/
theorem write_write_of_parted (h : Path.Parted (key :: rest) (key' :: rest')) :
    (t.write node before key rest).tree.write node' before' key' rest' =
      ⟨(t.write node' before' key' rest').result,
        ((t.write node' before' key' rest').tree.write node before key rest).tree⟩ := by
  induction rest generalizing t before before' key key' rest' with
  | nil =>
    cases h with
    | here hne => exact write_write_of_ne hne
    | there hnil => nomatch hnil
  | cons next rest ih =>
    cases h with
    | here hne => exact write_write_of_ne hne
    | there hparted =>
      cases rest' with
      | nil => nomatch hparted
      | cons next' rest' =>
        rcases write_cons t node before key next rest with
          ⟨sub, hsub, hw⟩ | ⟨leaf, hget, hleaf, hw⟩
        · -- both walks go on in the same subtree
          rw [hw, Written.tree_under, write_insert_self, ih hparted, write_of_branch hsub,
            Written.result_under, Written.tree_under, write_insert_self, Written.tree_under,
            Written.under, insert_insert_self, insert_insert_self]
        · -- both walks stop at the same leaf
          rcases write_cons t node' before' key next' rest' with ⟨sub, hsub, -⟩ | ⟨_, -, -, hw'⟩
          · rw [hsub] at hget
            rw [← hget] at hleaf
            exact absurd hleaf (by simp)
          · rw [hw, hw', hw]

/-! ### One way twice -/

/-- Of two walks on one way, with nodes of the same sort, only the second one shows. -/
theorem tree_write_write_self (h : node.isTree = node'.isTree) :
    ((t.write node before key rest).tree.write node' before' key rest).tree =
      (t.write node' before' key rest).tree := by
  induction rest generalizing t before before' key with
  | nil =>
    rw [write, write, write, bind, bind, bind]
    cases hget : t.get? key with
    | none => simp [h, insert_insert_self]
    | some old =>
      by_cases hkind : old.isTree = node.isTree
      · simp [hkind, h, insert_insert_self]
      · have hkind' : old.isTree ≠ node'.isTree := fun heq => hkind (heq.trans h.symm)
        simp [hkind, hkind', hget]
  | cons next rest ih =>
    rcases write_cons t node before key next rest with ⟨sub, hsub, hw⟩ | ⟨leaf, -, -, hw⟩
    · rw [hw, Written.tree_under, write_insert_self, Written.tree_under, insert_insert_self, ih,
        write_of_branch hsub, Written.tree_under]
    · rw [hw]

end Walk

/-! ### Writes at the end of segments -/

section Set

variable {segments segments' : List String}

/-- Segments are refused in every tree, or lead every tree into the walk. -/
theorem setInPlace_cases (segments : List String) (node : Node) :
    (∃ error, ∀ t : Tree, t.setInPlace segments node = ⟨.error error, t⟩) ∨
    (∃ key rest, segments = key :: rest ∧
      ∀ t : Tree, t.setInPlace segments node = t.write node [] key rest) := by
  cases segments with
  | nil => exact .inl ⟨_, fun _ => rfl⟩
  | cons key rest =>
    by_cases hmem : "" ∈ key :: rest
    · exact .inl ⟨_, fun _ => by rw [setInPlace, if_pos hmem]⟩
    · exact .inr ⟨key, rest, rfl, fun t => setInPlace_cons t node hmem⟩

/-- Writes whose ways part do not see each other. -/
theorem setInPlace_setInPlace_of_parted (t : Tree) (node node' : Node)
    (h : Path.Parted segments segments') :
    (t.setInPlace segments node).tree.setInPlace segments' node' =
      ⟨(t.setInPlace segments' node').result,
        ((t.setInPlace segments' node').tree.setInPlace segments node).tree⟩ := by
  rcases setInPlace_cases segments node with ⟨error, hrefused⟩ | ⟨key, rest, rfl, hwalk⟩
  · rw [hrefused, hrefused]
  · rcases setInPlace_cases segments' node' with ⟨error, hrefused⟩ | ⟨key', rest', rfl, hwalk'⟩
    · rw [hrefused, hrefused]
    · rw [hwalk, hwalk', hwalk', hwalk, write_write_of_parted h]

/-- What a write leaves at a way that parts from its own, whether it succeeds or not. -/
theorem find?_tree_setInPlace_of_parted (h : Path.Parted segments segments') :
    (t.setInPlace segments node).tree.find? segments' = t.find? segments' := by
  cases hresult : (t.setInPlace segments node).result with
  | ok done => exact find?_setInPlace_parted hresult h
  | error error => rw [tree_setInPlace_of_error hresult]

/-- Of two writes at one place, of nodes of the same sort, only the second one shows. -/
theorem tree_setInPlace_setInPlace_self (h : node.isTree = node'.isTree) :
    ((t.setInPlace segments node).tree.setInPlace segments node').tree =
      (t.setInPlace segments node').tree := by
  cases segments with
  | nil => rfl
  | cons key rest =>
    by_cases hmem : "" ∈ key :: rest
    · simp [setInPlace, hmem]
    · rw [setInPlace_cons t node hmem, setInPlace_cons _ node' hmem, setInPlace_cons t node' hmem,
        tree_write_write_self h]

end Set

/-! ### Calls made again -/

section Again

variable {t : Tree} {calls calls' : List Call}

/-- A call does not show when calls follow it that do not see it, and one that writes at the same
place. -/
theorem after_perform {call : Call} (hleaf : call.node.isTree = false)
    (hleaves : ∀ other ∈ calls, other.node.isTree = false)
    (hways : ∀ other ∈ calls, call.way = other.way ∨ Path.Parted call.way other.way)
    (hagain : ∃ other ∈ calls, call.way = other.way) :
    (call.perform t).tree.after calls = t.after calls := by
  induction calls generalizing t with
  | nil =>
    obtain ⟨other, hother, -⟩ := hagain
    exact absurd hother List.not_mem_nil
  | cons first calls ih =>
    rw [List.forall_mem_cons] at hleaves hways
    rw [after, after, first.perform_eq_setInPlace, first.perform_eq_setInPlace,
      call.perform_eq_setInPlace]
    by_cases hway : call.way = first.way
    · -- the first of the calls covers it
      rw [hway, tree_setInPlace_setInPlace_self (hleaf.trans hleaves.1.symm)]
    · -- the first of the calls changes places with it, and a later one covers it
      have hparted : Path.Parted call.way first.way := hways.1.resolve_left hway
      have hlater : ∃ other ∈ calls, call.way = other.way := by
        obtain ⟨other, hother, heq⟩ := hagain
        rcases List.mem_cons.mp hother with rfl | hother
        · exact absurd heq hway
        · exact ⟨other, hother, heq⟩
      rw [setInPlace_setInPlace_of_parted t _ _ hparted, ← call.perform_eq_setInPlace]
      exact ih hleaves.2 hways.2 hlater

/-- Calls do not show when calls that write at the same places, and none above another one, follow
them. -/
theorem after_after (hleaves : ∀ call ∈ calls', call.node.isTree = false)
    (hways : ∀ call ∈ calls', ∀ other ∈ calls',
      call.way = other.way ∨ Path.Parted call.way other.way) (hsub : calls ⊆ calls') :
    (t.after calls).after calls' = t.after calls' := by
  induction calls generalizing t with
  | nil => rfl
  | cons call calls ih =>
    rw [List.cons_subset] at hsub
    rw [after, ih hsub.2]
    exact after_perform (hleaves call hsub.1) hleaves (hways call hsub.1) ⟨call, hsub.1, rfl⟩

end Again

end ConfigLayers.Tree
