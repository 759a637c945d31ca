import Mathlib.Data.List.Basic
import ConfigLayers.Proofs.Text.Blank
import ConfigLayers.Proofs.Text.Segments
import ConfigLayers.Coerce

/-!
# Comma lists

A comma parts the items of a list, whatever stands on its two sides. So the items of a joined text
are those of its parts, and the texts that are their own only item are exactly the items that lists
have: joining such texts and taking the list again changes nothing.
-/

namespace ConfigLayers.Coerce

variable {s : String} {xs : List String}

/-- An item of a comma list: neither empty nor with a comma or outer white space. -/
structure IsItem (s : String) : Prop where
  ne_empty : s ≠ ""
  comma_notMem : ',' ∉ s.toList
  trimmed : Text.Trimmed s.toList

/-! ### Items -/

theorem items_empty : items "" = [] := by decide

/-- The items around a comma are those of both sides. -/
theorem items_append_comma (s t : String) : items (s ++ "," ++ t) = items s ++ items t := by
  have hsegments : Text.segments ',' (s ++ "," ++ t) =
      Text.segments ',' s ++ Text.segments ',' t := Text.segments_append_sep ',' s t
  rw [items, items, items, hsegments, List.map_append, List.filter_append]

theorem isItem_of_mem_items {item : String} (h : item ∈ items s) : IsItem item := by
  rw [items, List.mem_filter] at h
  obtain ⟨hmem, hne⟩ := h
  obtain ⟨part, hpart, rfl⟩ := List.mem_map.mp hmem
  refine ⟨of_decide_eq_true hne, ?_, ?_⟩
  · -- trimming only takes characters away
    rw [Text.toList_trim]
    intro hcomma
    obtain ⟨before, after, -, -, hchars⟩ := Text.exists_append_trimChars part.toList
    apply Text.sep_notMem_of_mem_segments hpart
    rw [← hchars]
    exact List.mem_append_left after (List.mem_append_right before hcomma)
  · rw [Text.toList_trim]
    exact Text.trimmed_trimChars part.toList

/-- An item is the only item of the list that it is. -/
theorem IsItem.items_eq (h : IsItem s) : items s = [s] := by
  have hsegments : Text.segments ',' s = [s] := by
    rw [Text.segments, Text.pieces_of_notMem h.comma_notMem, List.map_singleton,
      String.ofList_toList]
  have htrim : Text.trim s = s := by
    rw [Text.trim, h.trimmed.trimChars_eq, String.ofList_toList]
  rw [items, hsegments, List.map_singleton, htrim,
    List.filter_cons_of_pos (by simpa using h.ne_empty), List.filter_nil]

/-! ### Joined texts -/

theorem join_cons_cons (sep : Char) (x y : String) (xs : List String) :
    Text.join sep (x :: y :: xs) =
      x ++ String.ofList [sep] ++ Text.join sep (y :: xs) := by
  apply String.toList_injective
  simp [Text.join, Text.glue]

/-- The items of joined texts are those of each text. -/
theorem items_join (xs : List String) : items (Text.join ',' xs) = xs.flatMap items := by
  induction xs with
  | nil => exact items_empty
  | cons x xs ih =>
    cases xs with
    | nil => simp [Text.join, Text.glue]
    | cons y rest =>
      rw [join_cons_cons, List.flatMap_cons, ← ih]
      exact items_append_comma x _

/-- Joined texts are the items of the list that they make if and only if they are items at all. -/
theorem items_join_eq_iff : items (Text.join ',' xs) = xs ↔ ∀ x ∈ xs, IsItem x := by
  constructor
  · intro h x hx
    rw [← h] at hx
    exact isItem_of_mem_items hx
  · intro h
    have heach : ∀ x ∈ xs, items x = [x] := fun x hx => (h x hx).items_eq
    rw [items_join, List.flatMap_congr heach, List.flatMap_singleton']

/-- Every text is a list of items, and these joined by commas are the same list. Of all sequences of
texts those of items alone are what their joined text is read as. A comma between two texts puts
their lists one after the other. -/
theorem list_canonical :
    (∀ s, ∃ xs, list s = .ok xs ∧ (∀ x ∈ xs, IsItem x) ∧ list (Text.join ',' xs) = .ok xs) ∧
    (∀ xs, list (Text.join ',' xs) = .ok xs ↔ ∀ x ∈ xs, IsItem x) ∧
    (∀ s t, ∃ xs ys, list s = .ok xs ∧ list t = .ok ys ∧
      list (s ++ "," ++ t) = .ok (xs ++ ys)) := by
  have hjoin : ∀ xs, list (Text.join ',' xs) = .ok xs ↔ ∀ x ∈ xs, IsItem x := by
    intro xs
    rw [list, Except.ok.injEq, items_join_eq_iff]
  refine ⟨?_, hjoin, ?_⟩
  · intro s
    have hitems : ∀ x ∈ items s, IsItem x := fun x hx => isItem_of_mem_items hx
    exact ⟨items s, rfl, hitems, (hjoin _).mpr hitems⟩
  · intro s t
    exact ⟨items s, items t, rfl, rfl, congrArg Except.ok (items_append_comma s t)⟩

/-- An ideographic space goes like any other white space, and an empty or blank item is dropped. -/
theorem list_canonical_blanks :
    list "a, b\u3000,,\u00a0,c d " = .ok ["a", "b", "c d"] ∧ IsItem "c d" ∧
      list (Text.join ',' ["a", "b", "c d"]) = .ok ["a", "b", "c d"] ∧
      ¬ IsItem " b" ∧ list (Text.join ',' ["a", " b"]) ≠ .ok ["a", " b"] := by
  obtain ⟨hlist, hjoin, -⟩ := list_canonical
  have hitems : items "a, b\u3000,,\u00a0,c d " = ["a", "b", "c d"] := by decide
  have hread : list "a, b\u3000,,\u00a0,c d " = .ok ["a", "b", "c d"] :=
    congrArg Except.ok hitems
  obtain ⟨xs, hxs, heach, hagain⟩ := hlist "a, b\u3000,,\u00a0,c d "
  obtain rfl : ["a", "b", "c d"] = xs := Except.ok.inj (hread.symm.trans hxs)
  have hblank : ¬ IsItem " b" := fun h => absurd h.trimmed (by decide)
  refine ⟨hread, heach "c d" (by decide), hagain, hblank, ?_⟩
  intro hsame
  exact hblank ((hjoin ["a", " b"]).mp hsame " b" (by decide))

end ConfigLayers.Coerce
