import ConfigLayers.Proofs.Documents
import ConfigLayers.Proofs.Json.RoundTrip

/-!
# Trees as JSON values

Trees and JSON values of the same structure are turned into each other without loss, as long as the
keys ascend on both sides: a tree collects the members of an object by insertion, which leaves them
as they are. What a tree says about its order, its numbers and its depth is so of its JSON value.
-/

namespace ConfigLayers

/-! ### There and back -/

mutual
/-- The node of the JSON value of a node is this node. -/
theorem Node.ofJson_toJson : (node : Node) → node.Ordered → Node.ofJson node.toJson = node
  | .null, _ => rfl
  | .bool _, _ => rfl
  | .number _, _ => rfl
  | .string _, _ => rfl
  | .list items, h => congrArg Node.list (Node.itemsOfJson_itemsToJson items h)
  | .tree (.ofEntries es), h => by
    rw [Node.toJson, Tree.toJson, Node.ofJson, Tree.entriesOfJson_entriesToJson es h.2, h.1.ofList_eq]
theorem Node.itemsOfJson_itemsToJson :
    (items : List Node) → Node.ItemsOrdered items → Node.itemsOfJson (Node.itemsToJson items) = items
  | [], _ => rfl
  | item :: items, h => by
    rw [Node.itemsToJson, Node.itemsOfJson, Node.ofJson_toJson item h.1,
      Node.itemsOfJson_itemsToJson items h.2]
theorem Tree.entriesOfJson_entriesToJson : (es : List (String × Node)) → Tree.EntriesOrdered es →
    Node.entriesOfJson (Tree.entriesToJson es) = es
  | [], _ => rfl
  | (key, node) :: es, h => by
    rw [Tree.entriesToJson, Node.entriesOfJson, Node.ofJson_toJson node h.1,
      Tree.entriesOfJson_entriesToJson es h.2]
end

/-- The tree of the JSON object of a tree is this tree. -/
theorem Tree.ofJson?_toJson {t : Tree} (h : t.Ordered) : ofJson? t.toJson = some t := by
  cases t with
  | ofEntries es =>
    rw [toJson, ofJson?, entriesOfJson_entriesToJson es h.2, h.1.ofList_eq]

theorem Node.entriesOfJson_eq_map (members : List (String × Json)) :
    entriesOfJson members = members.map fun member => (member.1, ofJson member.2) := by
  induction members with
  | nil => rfl
  | cons member members ih => rw [entriesOfJson, ih, List.map_cons]

mutual
/-- The JSON value of the node of a JSON value is this value. -/
theorem Node.toJson_ofJson : (value : Json) → value.Ordered → (ofJson value).toJson = value
  | .null, _ => rfl
  | .bool _, _ => rfl
  | .number _, _ => rfl
  | .string _, _ => rfl
  | .array items, h => congrArg Json.array (Node.itemsToJson_itemsOfJson items h)
  | .object members, h => by
    have hascending : Keyed.Ascending (entriesOfJson members) := by
      rw [entriesOfJson_eq_map]
      exact h.1.map ofJson
    rw [ofJson, hascending.ofList_eq, toJson, Tree.toJson,
      Node.entriesToJson_entriesOfJson members h.2]
theorem Node.itemsToJson_itemsOfJson :
    (items : List Json) → Json.ItemsOrdered items → itemsToJson (itemsOfJson items) = items
  | [], _ => rfl
  | item :: items, h => by
    rw [itemsOfJson, itemsToJson, Node.toJson_ofJson item h.1,
      Node.itemsToJson_itemsOfJson items h.2]
theorem Node.entriesToJson_entriesOfJson : (members : List (String × Json)) →
    Json.MembersOrdered members → Tree.entriesToJson (entriesOfJson members) = members
  | [], _ => rfl
  | (key, value) :: members, h => by
    rw [entriesOfJson, Tree.entriesToJson, Node.toJson_ofJson value h.1,
      Node.entriesToJson_entriesOfJson members h.2]
end

/-! ### Order -/

theorem Tree.entriesToJson_eq_map (es : List (String × Node)) :
    entriesToJson es = es.map fun entry => (entry.1, entry.2.toJson) := by
  induction es with
  | nil => rfl
  | cons entry es ih => rw [entriesToJson, ih, List.map_cons]

mutual
theorem Node.ordered_toJson : (node : Node) → node.Ordered → node.toJson.Ordered
  | .null, _ => trivial
  | .bool _, _ => trivial
  | .number _, _ => trivial
  | .string _, _ => trivial
  | .list items, h => Node.itemsOrdered_toJson items h
  | .tree t, h => Tree.ordered_toJson t h
theorem Node.itemsOrdered_toJson :
    (items : List Node) → Node.ItemsOrdered items → Json.ItemsOrdered (Node.itemsToJson items)
  | [], _ => trivial
  | item :: items, h => ⟨Node.ordered_toJson item h.1, Node.itemsOrdered_toJson items h.2⟩
theorem Tree.ordered_toJson : (t : Tree) → t.Ordered → t.toJson.Ordered
  | .ofEntries es, h => by
    refine ⟨?_, Tree.membersOrdered_toJson es h.2⟩
    rw [Tree.entriesToJson_eq_map]
    exact h.1.map Node.toJson
theorem Tree.membersOrdered_toJson :
    (es : List (String × Node)) → Tree.EntriesOrdered es → Json.MembersOrdered (Tree.entriesToJson es)
  | [], _ => trivial
  | (_, node) :: es, h => ⟨Node.ordered_toJson node h.1, Tree.membersOrdered_toJson es h.2⟩
end

/-! ### Numbers -/

mutual
/-- Each number in the node is an integer that is kept as one. -/
def Node.Integral : Node → Prop
  | .number (.int n) => Number.IsInteger n
  | .number (.double _) => False
  | .list items => Node.ItemsIntegral items
  | .tree t => t.Integral
  | _ => True
termination_by structural node => node
def Node.ItemsIntegral : List Node → Prop
  | [] => True
  | item :: items => item.Integral ∧ Node.ItemsIntegral items
termination_by structural items => items
def Tree.Integral : Tree → Prop
  | .ofEntries es => Tree.EntriesIntegral es
termination_by structural t => t
def Tree.EntriesIntegral : List (String × Node) → Prop
  | [] => True
  | (_, node) :: es => node.Integral ∧ Tree.EntriesIntegral es
termination_by structural es => es
end

mutual
theorem Node.integral_toJson : (node : Node) → node.Integral → node.toJson.Integral
  | .null, _ => trivial
  | .bool _, _ => trivial
  | .number (.int _), h => h
  | .number (.double _), h => h
  | .string _, _ => trivial
  | .list items, h => Node.itemsIntegral_toJson items h
  | .tree t, h => Tree.integral_toJson t h
theorem Node.itemsIntegral_toJson :
    (items : List Node) → Node.ItemsIntegral items → Json.ItemsIntegral (Node.itemsToJson items)
  | [], _ => trivial
  | item :: items, h => ⟨Node.integral_toJson item h.1, Node.itemsIntegral_toJson items h.2⟩
theorem Tree.integral_toJson : (t : Tree) → t.Integral → t.toJson.Integral
  | .ofEntries es, h => Tree.membersIntegral_toJson es h
theorem Tree.membersIntegral_toJson :
    (es : List (String × Node)) → Tree.EntriesIntegral es → Json.MembersIntegral (Tree.entriesToJson es)
  | [], _ => trivial
  | (_, node) :: es, h => ⟨Node.integral_toJson node h.1, Tree.membersIntegral_toJson es h.2⟩
end

/-! ### Depth -/

mutual
/-- How many lists and trees stand inside each other at the deepest place of the node. -/
def Node.nesting : Node → Nat
  | .list items => Node.itemsNesting items + 1
  | .tree t => t.nesting
  | _ => 0
termination_by structural node => node
def Node.itemsNesting : List Node → Nat
  | [] => 0
  | item :: items => max item.nesting (Node.itemsNesting items)
termination_by structural items => items
/-- The same for a tree, which counts itself. -/
def Tree.nesting : Tree → Nat
  | .ofEntries es => Tree.entriesNesting es + 1
termination_by structural t => t
def Tree.entriesNesting : List (String × Node) → Nat
  | [] => 0
  | (_, node) :: es => max node.nesting (Tree.entriesNesting es)
termination_by structural es => es
end

mutual
theorem Node.nesting_toJson : (node : Node) → node.toJson.nesting = node.nesting
  | .null => rfl
  | .bool _ => rfl
  | .number _ => rfl
  | .string _ => rfl
  | .list items => congrArg (· + 1) (Node.itemsNesting_toJson items)
  | .tree t => Tree.nesting_toJson t
theorem Node.itemsNesting_toJson :
    (items : List Node) → Json.itemsNesting (Node.itemsToJson items) = Node.itemsNesting items
  | [] => rfl
  | item :: items => congrArg₂ max (Node.nesting_toJson item) (Node.itemsNesting_toJson items)
theorem Tree.nesting_toJson : (t : Tree) → t.toJson.nesting = t.nesting
  | .ofEntries es => congrArg (· + 1) (Tree.membersNesting_toJson es)
theorem Tree.membersNesting_toJson :
    (es : List (String × Node)) → Json.membersNesting (Tree.entriesToJson es) = Tree.entriesNesting es
  | [] => rfl
  | (_, node) :: es => congrArg₂ max (Node.nesting_toJson node) (Tree.membersNesting_toJson es)
end

/-! ### Rendered documents -/

/-- A rendered tree is read back from its text, however it is spaced. -/
theorem Document.parse_write {sp : Json.Spacing} (hsp : sp.Blank) {t : Tree} {path : String}
    (hformat : Format.ofPath path = .json) (hordered : t.Ordered) (hintegral : t.Integral)
    (hnesting : t.nesting ≤ Json.nestingLimit) :
    parse path (String.ofList (Json.write sp 0 t.toJson)) = .ok t := by
  have hread : Json.parse? (String.ofList (Json.write sp 0 t.toJson)) = some t.toJson := by
    apply Json.parse?_write hsp
    · exact Tree.ordered_toJson t hordered
    · exact Tree.integral_toJson t hintegral
    · rwa [Tree.nesting_toJson]
  simp only [parse, hformat, hread, Tree.ofJson?_toJson hordered]

/-- Rendering loses nothing. A tree is the tree of its JSON value, a JSON value the value of its
node, and the compact and the pretty text of a tree whose numbers are integers are documents that
hold this tree, up to the depth that a document may have. -/
theorem rendering_lossless :
    (∀ t : Tree, t.Ordered → Tree.ofJson? t.toJson = some t) ∧
    (∀ value : Json, value.Ordered → (Node.ofJson value).toJson = value) ∧
    ∀ (t : Tree) (path : String), t.Ordered → t.Integral → t.nesting ≤ 127 →
      Format.ofPath path = .json →
        Document.parse path t.toJson.compact = .ok t ∧
          Document.parse path t.toJson.pretty = .ok t := by
  refine ⟨fun t => Tree.ofJson?_toJson, Node.toJson_ofJson, ?_⟩
  intro t path hordered hintegral hnesting hformat
  constructor
  · exact Document.parse_write Json.Spacing.blank_compact hformat hordered hintegral hnesting
  · exact Document.parse_write Json.Spacing.blank_pretty hformat hordered hintegral hnesting

/-- Empty containers inside others, characters of every kind of escape, and the bounds of
integers. -/
def renderedTree : Tree :=
  .ofEntries [("", .list [.tree .empty, .list [], .null]),
    ("a\"\\\n\x01é😀", .string "/\t\x7f"),
    ("max", .number (.int 18446744073709551615)),
    ("min", .number (.int (-9223372036854775808))), ("on", .bool false)]

theorem rendering_lossless_sample :
    (renderedTree.Ordered ∧ renderedTree.Integral ∧ renderedTree.nesting ≤ 127 ∧
        Format.ofPath "conf/doc" = .json) ∧
      Tree.ofJson? renderedTree.toJson = some renderedTree ∧
      Document.parse "conf/doc" renderedTree.toJson.compact = .ok renderedTree ∧
      Document.parse "conf/doc" renderedTree.toJson.pretty = .ok renderedTree := by
  have hordered : renderedTree.Ordered := by
    have hascending : Keyed.Ascending renderedTree.entries := by decide
    refine ⟨hascending, ?_⟩
    simp [Tree.empty, Tree.Ordered, Tree.EntriesOrdered, Node.Ordered, Node.ItemsOrdered,
      Keyed.ascending_nil]
  have hintegral : renderedTree.Integral := by
    simp [renderedTree, Tree.empty, Tree.Integral, Tree.EntriesIntegral, Node.Integral,
      Node.ItemsIntegral, Number.IsInteger, pow2]
  have hnesting : renderedTree.nesting ≤ 127 := by decide
  have hformat : Format.ofPath "conf/doc" = .json := by decide
  obtain ⟨htree, -, htext⟩ := rendering_lossless
  exact ⟨⟨hordered, hintegral, hnesting, hformat⟩, htree _ hordered,
    htext _ _ hordered hintegral hnesting hformat⟩

end ConfigLayers
