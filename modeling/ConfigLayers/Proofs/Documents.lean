import ConfigLayers.Proofs.Keyed
import ConfigLayers.Document.Read

/-!
# The trees of documents

A file that holds text gives what the text says. A tree collects the members of an object or of a
table by insertion, so that the keys of what a document gives ascend at every depth, in whatever
order the document has them.
-/

namespace ConfigLayers

theorem Tree.entriesOrdered_iff {entries : List (String × Node)} :
    EntriesOrdered entries ↔ ∀ entry ∈ entries, entry.2.Ordered := by
  induction entries with
  | nil => simp [EntriesOrdered]
  | cons entry entries ih => rw [EntriesOrdered, ih, List.forall_mem_cons]

/-- The tree that collects ordered bindings is ordered. -/
theorem Tree.ordered_ofList {entries : List (String × Node)} (h : EntriesOrdered entries) :
    (ofEntries (Keyed.ofList entries)).Ordered := by
  rw [Ordered, entriesOrdered_iff]
  refine ⟨Keyed.ascending_ofList entries, ?_⟩
  intro entry hentry
  exact entriesOrdered_iff.mp h entry (Keyed.mem_of_mem_ofList hentry)

theorem Tree.Ordered.ascending {t : Tree} (h : t.Ordered) : Keyed.Ascending t.entries := by
  cases t with
  | ofEntries entries => exact h.1

/-- What an ordered tree binds is ordered. -/
theorem Tree.Ordered.of_get? {t : Tree} (h : t.Ordered) {key : String} {node : Node}
    (hget : t.get? key = some node) : node.Ordered := by
  cases t with
  | ofEntries entries =>
    exact entriesOrdered_iff.mp h.2 (key, node) (Keyed.mem_of_get?_eq_some hget)

/-! ### From JSON and TOML -/

mutual
theorem Node.ordered_ofJson : (value : Json) → (ofJson value).Ordered
  | .null => trivial
  | .bool _ => trivial
  | .number _ => trivial
  | .string _ => trivial
  | .array items => Node.itemsOrdered_ofJson items
  | .object members => Tree.ordered_ofList (Node.entriesOrdered_ofJson members)
theorem Node.itemsOrdered_ofJson : (items : List Json) → ItemsOrdered (itemsOfJson items)
  | [] => trivial
  | item :: items => ⟨Node.ordered_ofJson item, Node.itemsOrdered_ofJson items⟩
theorem Node.entriesOrdered_ofJson :
    (members : List (String × Json)) → Tree.EntriesOrdered (entriesOfJson members)
  | [] => trivial
  | (_, value) :: members => ⟨Node.ordered_ofJson value, Node.entriesOrdered_ofJson members⟩
end

theorem Node.ordered_ofFloat (x : Extended) : (ofFloat x).Ordered := by
  cases x <;> trivial

mutual
theorem Node.ordered_ofToml : (value : Toml.Value) → (ofToml value).Ordered
  | .string _ => trivial
  | .integer _ => trivial
  | .float x => Node.ordered_ofFloat x
  | .boolean _ => trivial
  | .moment _ => trivial
  | .array items => Node.itemsOrdered_ofToml items
  | .table entries => Tree.ordered_ofList (Node.entriesOrdered_ofToml entries)
theorem Node.itemsOrdered_ofToml : (items : List Toml.Value) → ItemsOrdered (itemsOfToml items)
  | [] => trivial
  | item :: items => ⟨Node.ordered_ofToml item, Node.itemsOrdered_ofToml items⟩
theorem Node.entriesOrdered_ofToml :
    (entries : List (String × Toml.Value)) → Tree.EntriesOrdered (entriesOfToml entries)
  | [] => trivial
  | (_, value) :: entries => ⟨Node.ordered_ofToml value, Node.entriesOrdered_ofToml entries⟩
end

/-! ### Documents -/

theorem Tree.ordered_ofToml (table : List (String × Toml.Value)) : (ofToml table).Ordered :=
  ordered_ofList (Node.entriesOrdered_ofToml table)

theorem Tree.ordered_ofJson? {value : Json} {t : Tree} (h : ofJson? value = some t) :
    t.Ordered := by
  cases value with
  | object members =>
    rw [← Option.some.inj h]
    exact ordered_ofList (Node.entriesOrdered_ofJson members)
  | _ => exact absurd h (by simp [ofJson?])

theorem Document.ordered_of_parse {path content : String} {t : Tree}
    (h : parse path content = .ok t) : t.Ordered := by
  rw [parse] at h
  split at h
  · split at h
    · exact absurd h (by simp)
    · split at h
      · next htree =>
        rw [← Except.ok.inj h]
        exact Tree.ordered_ofJson? htree
      · exact absurd h (by simp)
  · split at h
    · exact absurd h (by simp)
    · rw [← Except.ok.inj h]
      exact Tree.ordered_ofToml _

/-- A file that holds text is parsed. -/
theorem Document.load_of_text {files : FileSystem} {path : String} (content : String)
    (h : files path = .file content.toUTF8) : load files path = parse path content := by
  have htext : String.fromUTF8? content.toUTF8 = some content := by
    rw [String.fromUTF8?, dif_pos]
    rfl
  rw [load, h]
  simp only [htext]

/-- A document depends on what its path leads to, and on no other file. -/
theorem Document.load_congr {files files' : FileSystem} {path : String}
    (h : files path = files' path) : load files path = load files' path := by
  rw [load, load, h]

/-- The tree of every document that can be read is ordered. -/
theorem Document.ordered_of_load {files : FileSystem} {path : String} {t : Tree}
    (h : load files path = .ok t) : t.Ordered := by
  rw [load] at h
  split at h
  · exact absurd h (by simp)
  · exact absurd h (by simp)
  · split at h
    · exact absurd h (by simp)
    · exact ordered_of_parse h

end ConfigLayers
