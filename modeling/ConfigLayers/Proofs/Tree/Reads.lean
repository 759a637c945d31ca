import ConfigLayers.Proofs.Tree.Ways
import ConfigLayers.Tree.Reads

/-!
# Reads of bound nodes

What a read without a default gives at a path that is bound: what its conversion makes of the node,
with the path on the reason where it makes nothing of it. The children of a bound tree are bound one
key further down.
-/

namespace ConfigLayers

theorem mapError_eq_ok_iff {ε ε' α : Type} {f : ε → ε'} {result : Except ε α} {value : α} :
    result.mapError f = .ok value ↔ result = .ok value := by
  cases result with
  | ok other =>
    show (.ok other : Except ε' α) = .ok value ↔ _
    rw [Except.ok.injEq, Except.ok.injEq]
  | error reason =>
    constructor
    · rintro ⟨⟩
    · rintro ⟨⟩

/-- A key without a dot is a path of one segment. -/
theorem Path.keys_of_dot_notMem {key : String} (h : '.' ∉ key.toList) : keys key = [key] := by
  have hkeys : keys (dotted [key]) = [key] := by
    apply keys_dotted (List.cons_ne_nil key [])
    intro other hother
    rwa [List.mem_singleton.mp hother]
  rwa [dotted_singleton] at hkeys

namespace Tree

variable {t : Tree} {path : String} {node : Node}

/-- A child of a bound tree is bound one key further down. -/
theorem lookup_child_iff {sub : Tree} {key : String} (hsub : t.lookup path = .ok (.tree sub))
    (hkey : '.' ∉ key.toList) :
    t.lookup (path ++ "." ++ key) = .ok node ↔ sub.get? key = some node := by
  rw [lookup_eq_ok_iff] at hsub
  rw [lookup_eq_ok_iff, Path.keys_append, Path.keys_of_dot_notMem hkey,
    find?_append t (Path.keys_ne_nil path), hsub, Option.bind_some,
    Node.at?_tree sub (List.cons_ne_nil key []), find?_singleton]

/-- A read of a bound node gives what becomes of it. -/
theorem value_read_of_lookup {α : Type} [Inspect α] (hnode : t.lookup path = .ok node)
    (convert : Conversion α) :
    (t.read path none convert).value = (convert node).mapError (.wrongFormat path) := by
  have hfetch : t.fetch path convert = (convert node).mapError (.wrongFormat path) := by
    rw [fetch, hnode]
    rfl
  rw [read, hfetch]
  cases convert node <;> rfl

/-- A read of a bound node that gives no value has found the wrong format. -/
theorem wrongFormat_of_read {α : Type} [Inspect α] (hnode : t.lookup path = .ok node)
    {convert : Conversion α} (h : ∀ value, (t.read path none convert).value ≠ .ok value) :
    ∃ reason, (t.read path none convert).value = .error (.wrongFormat path reason) := by
  rw [value_read_of_lookup hnode] at h ⊢
  cases hconvert : convert node with
  | ok value => exact absurd (mapError_eq_ok_iff.mpr hconvert) (h value)
  | error reason => exact ⟨reason, rfl⟩

/-- A read of a scalar gives what becomes of its text. -/
theorem value_getAs_of_text {α : Type} [Inspect α] {text : String}
    (hnode : t.lookup path = .ok node) (htext : node.text? = some text) (coerce : Coercion α) :
    (t.getAs path none coerce).value = (coerce text).mapError (.wrongFormat path) := by
  rw [getAs, value_read_of_lookup hnode, Conversion.scalar, htext]

/-- A read of a section gives what becomes of the JSON value of its node. -/
theorem value_getSection_of_lookup (hnode : t.lookup path = .ok node) (shape : Shape) :
    (t.getSection path none shape).value =
      ((shape.bind node.toJson).mapError .mismatch).mapError (.wrongFormat path) := by
  rw [getSection, value_read_of_lookup hnode, Conversion.bindTo]

end Tree

end ConfigLayers
