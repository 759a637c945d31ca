import ConfigLayers.Text.Segments

/-!
# Cutting and joining are inverse

`glue` undoes `pieces` for every text. In the other direction `pieces` undoes `glue` for the lists
that cutting can give: those that are not empty and have no separator inside a piece. Cutting a text
that was put together around a separator gives the pieces of both sides.
-/

namespace ConfigLayers.Text

variable {sep : Char}

/-! ### Pieces -/

/-- No piece contains the separator. -/
theorem sep_notMem_of_mem_pieces {cs piece : List Char} (h : piece ∈ pieces sep cs) :
    sep ∉ piece := by
  induction cs generalizing piece with
  | nil =>
    rw [pieces_nil, List.mem_singleton] at h
    rw [h]
    exact List.not_mem_nil
  | cons c cs ih =>
    rw [pieces] at h
    split at h
    · rcases List.mem_cons.mp h with rfl | h
      · exact List.not_mem_nil
      · exact ih h
    · next hc =>
      cases hcs : pieces sep cs with
      | nil => exact absurd hcs (pieces_ne_nil sep cs)
      | cons first rest =>
        rw [hcs, consFirst] at h
        rw [hcs] at ih
        rcases List.mem_cons.mp h with rfl | h
        · -- the first piece of the rest, grown by `c`
          rw [List.mem_cons, not_or]
          exact ⟨Ne.symm hc, ih List.mem_cons_self⟩
        · exact ih (List.mem_cons_of_mem first h)

/-- A text without separator is its only piece. -/
theorem pieces_of_notMem {cs : List Char} (h : sep ∉ cs) : pieces sep cs = [cs] := by
  induction cs with
  | nil => rfl
  | cons c cs ih =>
    rw [List.mem_cons, not_or] at h
    rw [pieces, if_neg (Ne.symm h.1), ih h.2, consFirst]

theorem consFirst_append (c : Char) {ps : List (List Char)} (h : ps ≠ []) (qs : List (List Char)) :
    consFirst c (ps ++ qs) = consFirst c ps ++ qs := by
  match ps, h with
  | piece :: rest, _ => rfl

/-- The pieces around a separator are those of both sides. -/
theorem pieces_append_sep (xs ys : List Char) :
    pieces sep (xs ++ sep :: ys) = pieces sep xs ++ pieces sep ys := by
  induction xs with
  | nil => simp [pieces]
  | cons c xs ih =>
    rw [List.cons_append, pieces, pieces, ih]
    split
    · rfl
    · exact consFirst_append c (pieces_ne_nil sep xs) _

/-- Cutting gives the pieces back that were joined. -/
theorem pieces_glue {ps : List (List Char)} (hne : ps ≠ []) (h : ∀ piece ∈ ps, sep ∉ piece) :
    pieces sep (glue sep ps) = ps := by
  induction ps with
  | nil => exact absurd rfl hne
  | cons piece ps ih =>
    have hpiece : sep ∉ piece := h piece List.mem_cons_self
    cases ps with
    | nil => exact pieces_of_notMem hpiece
    | cons next rest =>
      have hrest : ∀ p ∈ next :: rest, sep ∉ p := by
        intro p hp
        exact h p (List.mem_cons_of_mem piece hp)
      rw [glue, pieces_append_sep, pieces_of_notMem hpiece,
        ih (List.cons_ne_nil next rest) hrest, List.singleton_append]

/-! ### Segments -/

theorem map_toList_segments (sep : Char) (s : String) :
    (segments sep s).map String.toList = pieces sep s.toList := by
  have hid : String.toList ∘ String.ofList = id := funext fun _ => String.toList_ofList
  rw [segments, List.map_map, hid, List.map_id]

/-- Every text has a segment. -/
theorem segments_ne_nil (sep : Char) (s : String) : segments sep s ≠ [] := by
  rw [segments, ne_eq, List.map_eq_nil_iff]
  exact pieces_ne_nil sep s.toList

/-- No segment contains the separator. -/
theorem sep_notMem_of_mem_segments {s part : String} (h : part ∈ segments sep s) :
    sep ∉ part.toList := by
  obtain ⟨piece, hpiece, rfl⟩ := List.mem_map.mp h
  rw [String.toList_ofList]
  exact sep_notMem_of_mem_pieces hpiece

/-- Joining the segments gives the text back. -/
@[simp] theorem join_segments (sep : Char) (s : String) : join sep (segments sep s) = s := by
  rw [join, map_toList_segments, glue_pieces, String.ofList_toList]

/-- Texts with the same segments are the same. -/
theorem segments_injective {s s' : String} (h : segments sep s = segments sep s') : s = s' := by
  rw [← join_segments sep s, h, join_segments]

/-- Cutting gives the texts back that were joined. -/
theorem segments_join {parts : List String} (hne : parts ≠ [])
    (h : ∀ part ∈ parts, sep ∉ part.toList) : segments sep (join sep parts) = parts := by
  have hpieces : ∀ piece ∈ parts.map String.toList, sep ∉ piece := by
    intro piece hpiece
    obtain ⟨part, hpart, rfl⟩ := List.mem_map.mp hpiece
    exact h part hpart
  have hid : String.ofList ∘ String.toList = id := funext fun _ => String.ofList_toList
  rw [segments, join, String.toList_ofList,
    pieces_glue (fun hnil => hne (List.map_eq_nil_iff.mp hnil)) hpieces, List.map_map, hid,
    List.map_id]

/-- The segments around a separator are those of both sides. -/
theorem segments_append_sep (sep : Char) (s s' : String) :
    segments sep (s ++ String.ofList [sep] ++ s') = segments sep s ++ segments sep s' := by
  rw [segments, String.toList_append, String.toList_append, String.toList_ofList,
    List.append_assoc, List.singleton_append, pieces_append_sep, List.map_append, segments,
    segments]

end ConfigLayers.Text
