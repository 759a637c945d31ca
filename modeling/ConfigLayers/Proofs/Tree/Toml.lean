import ConfigLayers.Proofs.Documents
import ConfigLayers.Proofs.Coerce.Numerals

/-!
# Trees of JSON and of TOML

Both formats are imported by the same rules: a JSON value that TOML can express gives the same node
as the TOML value of the same structure. What TOML has beyond JSON, floats without a finite value,
dates and times, becomes text, so that nothing that is imported from it is null.
-/

namespace ConfigLayers

/-! ### Values of both formats -/

namespace Json

mutual
/-- TOML can express the value: it contains no null, and its integers have 64 bits with the sign. -/
def Expressible : Json → Prop
  | null => False
  | number (.int n) => IntType.i64.InRange n
  | array items => ItemsExpressible items
  | object members => MembersExpressible members
  | _ => True
termination_by structural value => value
def ItemsExpressible : List Json → Prop
  | [] => True
  | item :: items => item.Expressible ∧ ItemsExpressible items
termination_by structural items => items
def MembersExpressible : List (String × Json) → Prop
  | [] => True
  | (_, value) :: members => value.Expressible ∧ MembersExpressible members
termination_by structural members => members
end

mutual
/-- The TOML value of the same structure. -/
def toToml : (value : Json) → value.Expressible → Toml.Value
  | null, h => h.elim
  | bool b, _ => .boolean b
  | number (.int n), _ => .integer n
  | number (.double x), _ => .float (.finite x)
  | string s, _ => .string s
  | array items, h => .array (itemsToToml items h)
  | object members, h => .table (membersToToml members h)
termination_by structural value => value
def itemsToToml : (items : List Json) → ItemsExpressible items → List Toml.Value
  | [], _ => []
  | item :: items, h => item.toToml h.1 :: itemsToToml items h.2
termination_by structural items => items
def membersToToml :
    (members : List (String × Json)) → MembersExpressible members → List (String × Toml.Value)
  | [], _ => []
  | (key, value) :: members, h => (key, value.toToml h.1) :: membersToToml members h.2
termination_by structural members => members
end

end Json

/-! ### The same nodes -/

mutual
/-- A value gives the same node in both formats. -/
theorem Node.ofToml_toToml :
    (value : Json) → (h : value.Expressible) → ofToml (value.toToml h) = ofJson value
  | .null, h => h.elim
  | .bool _, _ => rfl
  | .number (.int _), _ => rfl
  | .number (.double _), _ => rfl
  | .string _, _ => rfl
  | .array items, h => congrArg Node.list (Node.itemsOfToml_itemsToToml items h)
  | .object members, h => by
    rw [Json.toToml, ofToml, Node.entriesOfToml_membersToToml members h, ofJson]
theorem Node.itemsOfToml_itemsToToml : (items : List Json) → (h : Json.ItemsExpressible items) →
    itemsOfToml (Json.itemsToToml items h) = itemsOfJson items
  | [], _ => rfl
  | item :: items, h =>
    congrArg₂ List.cons (Node.ofToml_toToml item h.1) (Node.itemsOfToml_itemsToToml items h.2)
theorem Node.entriesOfToml_membersToToml :
    (members : List (String × Json)) → (h : Json.MembersExpressible members) →
      entriesOfToml (Json.membersToToml members h) = entriesOfJson members
  | [], _ => rfl
  | (key, value) :: members, h => by
    rw [Json.membersToToml, entriesOfToml, Node.ofToml_toToml value h.1,
      Node.entriesOfToml_membersToToml members h.2, entriesOfJson]
end

/-- A number keeps its class and its value. -/
theorem Node.ofToml_number {x : Number} (h : (Json.number x).Expressible) :
    ofToml ((Json.number x).toToml h) = .number x :=
  ofToml_toToml (.number x) h

/-! ### No null -/

mutual
/-- There is no null in the node, at any depth. -/
def Node.NullFree : Node → Prop
  | .null => False
  | .list items => Node.ItemsNullFree items
  | .tree t => t.NullFree
  | _ => True
termination_by structural node => node
def Node.ItemsNullFree : List Node → Prop
  | [] => True
  | item :: items => item.NullFree ∧ Node.ItemsNullFree items
termination_by structural items => items
def Tree.NullFree : Tree → Prop
  | .ofEntries es => Tree.EntriesNullFree es
termination_by structural t => t
def Tree.EntriesNullFree : List (String × Node) → Prop
  | [] => True
  | (_, node) :: es => node.NullFree ∧ Tree.EntriesNullFree es
termination_by structural es => es
end

theorem Tree.entriesNullFree_iff {entries : List (String × Node)} :
    EntriesNullFree entries ↔ ∀ entry ∈ entries, entry.2.NullFree := by
  induction entries with
  | nil => simp [EntriesNullFree]
  | cons entry entries ih => rw [EntriesNullFree, ih, List.forall_mem_cons]

/-- Collecting bindings adds none. -/
theorem Tree.nullFree_ofList {entries : List (String × Node)} (h : EntriesNullFree entries) :
    (ofEntries (Keyed.ofList entries)).NullFree := by
  rw [NullFree, entriesNullFree_iff]
  intro entry hentry
  exact entriesNullFree_iff.mp h entry (Keyed.mem_of_mem_ofList hentry)

theorem Node.nullFree_ofFloat (x : Extended) : (ofFloat x).NullFree := by
  cases x <;> trivial

mutual
theorem Node.nullFree_ofToml : (value : Toml.Value) → (ofToml value).NullFree
  | .string _ => trivial
  | .integer _ => trivial
  | .float x => Node.nullFree_ofFloat x
  | .boolean _ => trivial
  | .moment _ => trivial
  | .array items => Node.itemsNullFree_ofToml items
  | .table entries => Tree.nullFree_ofList (Node.entriesNullFree_ofToml entries)
theorem Node.itemsNullFree_ofToml : (items : List Toml.Value) → ItemsNullFree (itemsOfToml items)
  | [] => trivial
  | item :: items => ⟨Node.nullFree_ofToml item, Node.itemsNullFree_ofToml items⟩
theorem Node.entriesNullFree_ofToml :
    (entries : List (String × Toml.Value)) → Tree.EntriesNullFree (entriesOfToml entries)
  | [] => trivial
  | (_, value) :: entries => ⟨Node.nullFree_ofToml value, Node.entriesNullFree_ofToml entries⟩
end

/-! ### What becomes of TOML values -/

theorem Node.itemsOfToml_eq_map (items : List Toml.Value) :
    itemsOfToml items = items.map ofToml := by
  induction items with
  | nil => rfl
  | cons item items ih => rw [itemsOfToml, ih, List.map_cons]

theorem Node.entriesOfToml_eq_map (entries : List (String × Toml.Value)) :
    entriesOfToml entries = entries.map fun entry => (entry.1, ofToml entry.2) := by
  induction entries with
  | nil => rfl
  | cons entry entries ih => rw [entriesOfToml, ih, List.map_cons]

/-- The tree of a table binds the node of what the table binds. -/
theorem Tree.get?_ofToml (entries : List (String × Toml.Value)) (key : String) :
    (ofToml entries).get? key = (Keyed.get? key (Keyed.ofList entries)).map Node.ofToml := by
  rw [ofToml, get?, entries_ofEntries, Node.entriesOfToml_eq_map, Keyed.ofList_map, Keyed.get?_map]

/-- The value is neither an array nor a table. -/
def Toml.Value.IsScalar : Toml.Value → Prop
  | .array _ | .table _ => False
  | _ => True

theorem Node.exists_text_ofFloat (x : Extended) : ∃ text, (ofFloat x).text? = some text := by
  cases x <;> exact ⟨_, rfl⟩

/-- Every scalar has a text, also if it is no number, infinite or a moment. -/
theorem Node.exists_text_ofToml {value : Toml.Value} (h : value.IsScalar) :
    ∃ text, (ofToml value).text? = some text := by
  cases value with
  | float x => exact Node.exists_text_ofFloat x
  | array items => exact h.elim
  | table entries => exact h.elim
  | _ => exact ⟨_, rfl⟩

/-- A JSON value that TOML can express is imported as the TOML value of the same structure is, and so
is a whole document; an integer stays one, and so does a double. Of a TOML value nothing becomes
null: tables become trees and arrays lists, of the nodes of what is in them, and everything else
becomes a scalar with a text. -/
theorem imports_agree :
    (∀ (value : Json) (h : value.Expressible), Node.ofToml (value.toToml h) = Node.ofJson value) ∧
    (∀ (x : Number) (h : (Json.number x).Expressible),
      Node.ofToml ((Json.number x).toToml h) = .number x) ∧
    (∀ (members : List (String × Json)) (h : (Json.object members).Expressible),
      ∃ entries, (Json.object members).toToml h = .table entries ∧
        Tree.ofJson? (.object members) = some (Tree.ofToml entries)) ∧
    (∀ value : Toml.Value, (Node.ofToml value).NullFree) ∧
    (∀ entries : List (String × Toml.Value), ∃ t, Node.ofToml (.table entries) = .tree t ∧
      ∀ key, t.get? key = (Keyed.get? key (Keyed.ofList entries)).map Node.ofToml) ∧
    (∀ items : List Toml.Value, Node.ofToml (.array items) = .list (items.map Node.ofToml)) ∧
    (∀ value : Toml.Value, value.IsScalar → ∃ text, (Node.ofToml value).text? = some text) := by
  refine ⟨Node.ofToml_toToml, fun _ => Node.ofToml_number, ?_, Node.nullFree_ofToml, ?_, ?_,
    fun _ => Node.exists_text_ofToml⟩
  · intro members h
    refine ⟨_, rfl, ?_⟩
    rw [Tree.ofToml, Node.entriesOfToml_membersToToml members h, Tree.ofJson?]
  · intro entries
    exact ⟨Tree.ofToml entries, rfl, Tree.get?_ofToml entries⟩
  · intro items
    rw [Node.ofToml, Node.itemsOfToml_eq_map]

/-- A table inside an array, both classes of numbers, and the least integer of TOML. -/
def sharedValue : Json :=
  .object [("a", .array [.object [("n", .number (.int (-9223372036854775808)))],
    .number (.double (.zero true)), .number (.int 0)]), ("b", .bool true)]

theorem imports_agree_shared : ∃ h : sharedValue.Expressible,
    Node.ofToml (sharedValue.toToml h) = Node.ofJson sharedValue ∧
      Toml.Value.IsScalar (.float .nan) ∧
      ∃ text, (Node.ofToml (.float .nan)).text? = some text := by
  have hleast : IntType.i64.InRange (-9223372036854775808) := by decide
  have hzero : IntType.i64.InRange 0 := by decide
  have hitems : Json.ItemsExpressible [.object [("n", .number (.int (-9223372036854775808)))],
      .number (.double (.zero true)), .number (.int 0)] :=
    ⟨⟨hleast, trivial⟩, trivial, hzero, trivial⟩
  have hshared : sharedValue.Expressible := ⟨hitems, trivial, trivial⟩
  obtain ⟨hsame, -, -, -, -, -, htext⟩ := imports_agree
  exact ⟨hshared, hsame sharedValue hshared, trivial, htext (.float .nan) trivial⟩

end ConfigLayers
