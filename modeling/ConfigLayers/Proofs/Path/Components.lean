import Mathlib.Data.List.Basic
import ConfigLayers.Proofs.Text.Segments
import ConfigLayers.Path.Basic

/-!
# Components and parents

The components of a path are what its pieces between slashes stand for. A path that is cut off after
one of its components has the components up to this one, so that the parent of a path, which is such
a beginning of its text, has all components but the last. Only a leading slash gives the root, and
no name has a slash in it.
-/

namespace ConfigLayers.Path

variable {leading : Bool} {start stop : Nat} {c d : Component} {cs : List Char}
  {ps : List (List Char)} {path : String}

/-- What the first piece of a path stands for: an empty one before others is a leading slash. -/
def firstPart? (first : List Char) (rest : List (List Char)) : Option Component :=
  if first = [] ∧ rest ≠ [] then some .root else Component.ofPiece? true first

/-- The components of a path, piece by piece: a leading slash is the root, a leading `.` stays,
every other empty piece and `.` is passed over, and all else stays. -/
def parts (path : String) : List Component :=
  match Text.pieces '/' path.toList with
  | [] => []
  | first :: rest =>
    (firstPart? first rest).toList ++ rest.filterMap (Component.ofPiece? false)

/-! ### Components by pieces -/

/-- No piece stands for the root. -/
theorem ofPiece?_ne_root (leading : Bool) (piece : List Char) :
    Component.ofPiece? leading piece ≠ some .root := by
  cases leading <;> simp only [Component.ofPiece?] <;> split_ifs <;> simp

/-- A name is the piece that it stands for. -/
theorem eq_of_ofPiece?_eq_name {piece chars : List Char}
    (h : Component.ofPiece? leading piece = some (.name chars)) : piece = chars := by
  cases leading <;> simp only [Component.ofPiece?] at h <;> split_ifs at h <;> simp_all

theorem eq_of_firstPart?_eq_name {first chars : List Char} {rest : List (List Char)}
    (h : firstPart? first rest = some (.name chars)) : first = chars := by
  rw [firstPart?] at h
  split at h
  · exact absurd h (by simp)
  · exact eq_of_ofPiece?_eq_name h

theorem placed_cons (leading : Bool) (start : Nat) (piece : List Char) (ps : List (List Char)) :
    placed leading start (piece :: ps) =
      ((Component.ofPiece? leading piece).map (·, start + piece.length)).toList ++
        placed false (start + piece.length + 1) ps := rfl

theorem map_fst_placed (start : Nat) (ps : List (List Char)) :
    (placed false start ps).map Prod.fst = ps.filterMap (Component.ofPiece? false) := by
  induction ps generalizing start with
  | nil => rfl
  | cons piece ps ih =>
    rw [placed_cons, List.map_append, ih, List.filterMap_cons]
    cases Component.ofPiece? false piece <;> rfl

theorem componentsWithEnds_slash (cs : List Char) :
    componentsWithEnds ('/' :: cs) = (.root, 1) :: placed false 1 (Text.pieces '/' cs) := rfl

theorem componentsWithEnds_of_relative (h : cs.head? ≠ some '/') :
    componentsWithEnds cs = placed true 0 (Text.pieces '/' cs) := by
  rw [componentsWithEnds]
  rintro rest rfl
  exact h rfl

/-- The components are the same whether or not their places are kept. -/
theorem components_eq_parts (path : String) : components path = parts path := by
  rw [components, parts]
  generalize path.toList = cs
  by_cases habsolute : cs.head? = some '/'
  · obtain ⟨rest, rfl⟩ := List.head?_eq_some_iff.mp habsolute
    have hroot : firstPart? [] (Text.pieces '/' rest) = some .root :=
      if_pos ⟨rfl, Text.pieces_ne_nil '/' rest⟩
    rw [componentsWithEnds_slash, List.map_cons, map_fst_placed, Text.pieces, if_pos rfl]
    simp only [hroot, Option.toList_some, List.singleton_append]
  · rw [componentsWithEnds_of_relative habsolute]
    cases hpieces : Text.pieces '/' cs with
    | nil => exact absurd hpieces (Text.pieces_ne_nil '/' cs)
    | cons first rest =>
      have hfirst : firstPart? first rest = Component.ofPiece? true first := by
        apply if_neg
        rintro ⟨rfl, hrest⟩
        -- the text would start with a slash
        have hglue := Text.glue_pieces '/' cs
        rw [hpieces, Text.glue_nil_cons '/' hrest] at hglue
        rw [← hglue] at habsolute
        exact habsolute rfl
      simp only [placed_cons, List.map_append, map_fst_placed, hfirst]
      cases Component.ofPiece? true first <;> rfl

theorem components_empty : components "" = [] := by decide

/-- The root comes first or not at all. -/
theorem root_notMem_of_cons {rest : List Component} (h : components path = c :: rest) :
    .root ∉ rest := by
  have hpieces : ∀ ps, .root ∉ List.filterMap (Component.ofPiece? false) ps := by
    intro ps hmem
    obtain ⟨piece, -, hpiece⟩ := List.mem_filterMap.mp hmem
    exact ofPiece?_ne_root false piece hpiece
  rw [components_eq_parts, parts] at h
  intro hroot
  split at h
  · exact absurd h (by simp)
  · next first ps _ =>
    cases hfirst : firstPart? first ps with
    | none =>
      rw [hfirst, Option.toList_none, List.nil_append] at h
      exact hpieces ps (h ▸ List.mem_cons_of_mem c hroot)
    | some head =>
      rw [hfirst, Option.toList_some, List.singleton_append, List.cons.injEq] at h
      exact hpieces ps (h.2 ▸ hroot)

/-- No name has a slash in it. -/
theorem slash_notMem_of_name_mem {chars : List Char} (h : .name chars ∈ components path) :
    '/' ∉ chars := by
  rw [components_eq_parts, parts] at h
  split at h
  · exact absurd h List.not_mem_nil
  · next first ps hpieces =>
    have hslash : ∀ piece ∈ first :: ps, '/' ∉ piece := by
      rw [← hpieces]
      intro piece hpiece
      exact Text.sep_notMem_of_mem_pieces hpiece
    rcases List.mem_append.mp h with h | h
    · rw [← eq_of_firstPart?_eq_name (Option.mem_toList.mp h)]
      exact hslash first List.mem_cons_self
    · obtain ⟨piece, hpiece, hname⟩ := List.mem_filterMap.mp h
      rw [← eq_of_ofPiece?_eq_name hname]
      exact hslash piece (List.mem_cons_of_mem first hpiece)

/-! ### Beginnings of a path -/

theorem le_of_mem_placed (h : (c, stop) ∈ placed leading start ps) : start ≤ stop := by
  induction ps generalizing leading start with
  | nil => exact absurd h List.not_mem_nil
  | cons piece ps ih =>
    rw [placed_cons] at h
    rcases List.mem_append.mp h with h | h
    · obtain ⟨_, -, heq⟩ := Option.map_eq_some_iff.mp (Option.mem_toList.mp h)
      have hstop : start + piece.length = stop := (Prod.mk.inj heq).2
      omega
    · have hlater := ih h
      omega

/-- An element of a list is the one that may have been put in front, or one of those behind it. -/
theorem append_eq_of_toList_append_eq {α : Type} {a? : Option α} {a : α} {as before after : List α}
    (h : a?.toList ++ as = before ++ a :: after) :
    (a? = some a ∧ before = []) ∨
      ∃ mid, before = a?.toList ++ mid ∧ as = mid ++ a :: after := by
  cases a? with
  | none => exact .inr ⟨before, rfl, h⟩
  | some first =>
    cases before with
    | nil => exact .inl ⟨congrArg some (List.cons.inj h).1, rfl⟩
    | cons b before =>
      obtain ⟨rfl, hrest⟩ := List.cons.inj h
      exact .inr ⟨before, rfl, hrest⟩

/-- The text up to the end of a component has the components up to this one. -/
theorem placed_take {xs ys : List (Component × Nat)} (hps : ∀ piece ∈ ps, '/' ∉ piece)
    (h : placed leading start ps = xs ++ (c, stop) :: ys) :
    placed leading start (Text.pieces '/' ((Text.glue '/' ps).take (stop - start))) =
      xs ++ [(c, stop)] := by
  induction ps generalizing leading start xs with
  | nil => exact absurd h (by simp [placed])
  | cons piece ps ih =>
    obtain ⟨hpiece, hrest⟩ := List.forall_mem_cons.mp hps
    have hglue : ps ≠ [] → Text.glue '/' (piece :: ps) = piece ++ '/' :: Text.glue '/' ps := by
      intro hne
      cases ps with
      | nil => exact absurd rfl hne
      | cons next ps => rfl
    rw [placed_cons] at h
    rcases append_eq_of_toList_append_eq h with ⟨hfirst, rfl⟩ | ⟨mid, rfl, hmid⟩
    · -- the component ends with the first piece
      obtain ⟨c', hc', heq⟩ := Option.map_eq_some_iff.mp hfirst
      obtain ⟨rfl, rfl⟩ := Prod.mk.inj heq
      have htake : (Text.glue '/' (piece :: ps)).take (start + piece.length - start) = piece := by
        rw [Nat.add_sub_cancel_left]
        cases ps with
        | nil => exact List.take_length
        | cons next ps => exact List.take_left
      rw [htake, Text.pieces_of_notMem hpiece, placed_cons, hc']
      rfl
    · -- it ends later, and the first piece stays whole
      have hne : ps ≠ [] := by
        rintro rfl
        exact absurd hmid (by simp [placed])
      have hmem : (c, stop) ∈ placed false (start + piece.length + 1) ps := by
        rw [hmid]
        exact List.mem_append_right _ List.mem_cons_self
      have hle : start + piece.length + 1 ≤ stop := le_of_mem_placed hmem
      have hlength : stop - start = piece.length + (stop - (start + piece.length + 1) + 1) := by
        omega
      rw [hglue hne, hlength, List.take_length_add_append, List.take_succ_cons,
        Text.pieces_append_sep, Text.pieces_of_notMem hpiece, List.singleton_append, placed_cons,
        ih hrest hmid, List.append_assoc]

theorem componentsWithEnds_take {xs ys : List (Component × Nat)}
    (h : componentsWithEnds cs = xs ++ (c, stop) :: ys) :
    componentsWithEnds (cs.take stop) = xs ++ [(c, stop)] := by
  by_cases habsolute : cs.head? = some '/'
  · obtain ⟨rest, rfl⟩ := List.head?_eq_some_iff.mp habsolute
    rw [componentsWithEnds_slash] at h
    cases xs with
    | nil =>
      obtain ⟨rfl, rfl⟩ := Prod.mk.inj (List.cons.inj h).1
      rfl
    | cons x xs =>
      obtain ⟨rfl, hrest⟩ := List.cons.inj h
      have htake := placed_take (fun piece => Text.sep_notMem_of_mem_pieces) hrest
      have hmem : (c, stop) ∈ placed false 1 (Text.pieces '/' rest) := by
        rw [hrest]
        exact List.mem_append_right _ List.mem_cons_self
      obtain ⟨n, rfl⟩ := Nat.exists_eq_add_of_le' (le_of_mem_placed hmem)
      rw [Text.glue_pieces, Nat.add_sub_cancel] at htake
      rw [List.take_succ_cons, componentsWithEnds_slash, htake, List.cons_append]
  · have hbeginning : (cs.take stop).head? ≠ some '/' := by
      rw [List.head?_take]
      split
      · simp
      · exact habsolute
    rw [componentsWithEnds_of_relative habsolute] at h
    have htake := placed_take (fun piece => Text.sep_notMem_of_mem_pieces) h
    rwa [Text.glue_pieces, Nat.sub_zero, ← componentsWithEnds_of_relative hbeginning] at htake

/-! ### Parents -/

theorem parent?_of_components_nil (h : components path = []) : parent? path = none := by
  rw [components, List.map_eq_nil_iff] at h
  rw [parent?, h]
  rfl

theorem parent?_of_components_root (h : components path = [.root]) : parent? path = none := by
  obtain ⟨⟨c, stop⟩, hends, rfl⟩ := List.map_eq_singleton_iff.mp h
  rw [parent?, hends]
  rfl

theorem parent?_of_components_singleton (h : components path = [c]) (hc : c ≠ .root) :
    parent? path = some "" := by
  obtain ⟨⟨c, stop⟩, hends, rfl⟩ := List.map_eq_singleton_iff.mp h
  rw [parent?, hends]
  cases c with
  | root => exact absurd rfl hc
  | _ => rfl

/-- The parent has the components before the last one. -/
theorem exists_parent?_eq_some {xs : List Component} (h : components path = xs ++ [d, c]) :
    ∃ parent, parent? path = some parent ∧ components parent = xs ++ [d] := by
  have hc : c ≠ .root := by
    rintro rfl
    cases xs with
    | nil => exact root_notMem_of_cons h (by simp)
    | cons x xs => exact root_notMem_of_cons h (by simp)
  obtain ⟨before, last, hends, hbefore, hlast⟩ := List.map_eq_append_iff.mp h
  obtain ⟨⟨d, stop⟩, _, rfl, rfl, htail⟩ := List.map_eq_cons_iff.mp hlast
  obtain ⟨⟨c, length⟩, rfl, rfl⟩ := List.map_eq_singleton_iff.mp htail
  refine ⟨String.ofList (path.toList.take stop), ?_, ?_⟩
  · rw [parent?, hends, List.reverse_append]
    cases c with
    | root => exact absurd rfl hc
    | _ => rfl
  · rw [components, String.toList_ofList, componentsWithEnds_take hends, List.map_append, hbefore]
    rfl

end ConfigLayers.Path
