import Mathlib.Data.List.Sort
import ConfigLayers.Keyed

/-!
# Ascending keyed lists

Insertion keeps a list ascending, so that every list made by insertions is. In an ascending list a
key stands once, and a search finds exactly what stands in the list, so that searches tell ascending
lists apart. The order in which different keys are inserted does not show, in any list.
-/

namespace ConfigLayers.Keyed

variable {α β : Type} {key : String} {value : α} {list : List (String × α)}

/-! ### Order -/

instance (list : List (String × α)) : Decidable (Ascending list) :=
  inferInstanceAs (Decidable (List.Pairwise _ list))

theorem ascending_nil : Ascending ([] : List (String × α)) := List.Pairwise.nil

theorem mem_insert {entry : String × α} (h : entry ∈ insert key value list) :
    entry = (key, value) ∨ entry ∈ list := by
  induction list with
  | nil => exact .inl (List.mem_singleton.mp h)
  | cons first rest ih =>
    obtain ⟨k, v⟩ := first
    rw [insert] at h
    split at h
    · rcases List.mem_cons.mp h with h | h
      · exact .inl h
      · exact .inr (List.mem_cons_of_mem _ h)
    · split at h
      · exact List.mem_cons.mp h
      · rcases List.mem_cons.mp h with h | h
        · exact .inr (h ▸ List.mem_cons_self)
        · exact (ih h).imp_right (List.mem_cons_of_mem _)

/-- An insertion keeps the order. -/
theorem Ascending.insert (h : Ascending list) (key : String) (value : α) :
    Ascending (insert key value list) := by
  induction list with
  | nil => exact List.pairwise_singleton _ _
  | cons first rest ih =>
    obtain ⟨k, v⟩ := first
    obtain ⟨hfirst, hrest⟩ := List.pairwise_cons.mp h
    rw [Keyed.insert]
    split
    · next hk => exact List.pairwise_cons.mpr ⟨fun entry hentry => hk ▸ hfirst entry hentry, hrest⟩
    · next hne =>
      split
      · next hlt =>
        refine List.pairwise_cons.mpr ⟨fun entry hentry => ?_, h⟩
        rcases List.mem_cons.mp hentry with rfl | hentry
        · exact hlt
        · exact String.lt_trans hlt (hfirst entry hentry)
      · next hnlt =>
        refine List.pairwise_cons.mpr ⟨fun entry hentry => ?_, ih hrest⟩
        rcases mem_insert hentry with rfl | hentry
        · exact Std.lt_of_le_of_ne (String.not_lt.mp hnlt) (Ne.symm hne)
        · exact hfirst entry hentry

theorem ascending_foldl_insert (entries : List (String × α)) (h : Ascending list) :
    Ascending (entries.foldl (fun list entry => insert entry.1 entry.2 list) list) := by
  induction entries generalizing list with
  | nil => exact h
  | cons entry entries ih => exact ih (h.insert entry.1 entry.2)

theorem mem_foldl_insert {entries : List (String × α)} {entry : String × α}
    (h : entry ∈ entries.foldl (fun list entry => insert entry.1 entry.2 list) list) :
    entry ∈ list ∨ entry ∈ entries := by
  induction entries generalizing list with
  | nil => exact .inl h
  | cons first entries ih =>
    rcases ih h with h | h
    · rcases mem_insert h with h | h
      · exact .inr (h ▸ List.mem_cons_self)
      · exact .inl h
    · exact .inr (List.mem_cons_of_mem first h)

/-- A list made from entries in any order is ascending. -/
theorem ascending_ofList (entries : List (String × α)) : Ascending (ofList entries) :=
  ascending_foldl_insert entries ascending_nil

theorem mem_of_mem_ofList {entries : List (String × α)} {entry : String × α}
    (h : entry ∈ ofList entries) : entry ∈ entries :=
  (mem_foldl_insert h).elim (fun hnil => absurd hnil List.not_mem_nil) id

/-! ### Searching -/

theorem mem_of_get?_eq_some (h : get? key list = some value) : (key, value) ∈ list := by
  induction list with
  | nil => exact absurd h (by simp)
  | cons first rest ih =>
    obtain ⟨k, v⟩ := first
    rw [get?] at h
    split at h
    · next hk =>
      rw [hk, Option.some.inj h]
      exact List.mem_cons_self
    · split at h
      · exact absurd h (by simp)
      · exact List.mem_cons_of_mem _ (ih h)

/-- A search in an ascending list finds what stands there. -/
theorem Ascending.get?_eq_some_iff (h : Ascending list) :
    get? key list = some value ↔ (key, value) ∈ list := by
  refine ⟨mem_of_get?_eq_some, fun hmem => ?_⟩
  induction list with
  | nil => exact absurd hmem List.not_mem_nil
  | cons first rest ih =>
    obtain ⟨k, v⟩ := first
    obtain ⟨hfirst, hrest⟩ := List.pairwise_cons.mp h
    rcases List.mem_cons.mp hmem with heq | hmem
    · rw [Prod.mk.injEq] at heq
      rw [get?, if_pos heq.1, heq.2]
    · have hlt : k < key := hfirst (key, value) hmem
      rw [get?, if_neg fun heq => String.ne_of_lt hlt heq.symm, if_neg (String.lt_asymm hlt)]
      exact ih hrest hmem

/-- A search from the front finds what stands in an ascending list. -/
theorem Ascending.lookup_eq_some_iff (h : Ascending list) :
    list.lookup key = some value ↔ (key, value) ∈ list := by
  rw [List.lookup_eq_some_iff]
  constructor
  · rintro ⟨before, after, rfl, -⟩
    exact List.mem_append_right before List.mem_cons_self
  · intro hmem
    obtain ⟨before, after, rfl⟩ := List.append_of_mem hmem
    refine ⟨before, after, rfl, ?_⟩
    intro entry hentry
    have hlt : entry.1 < key := (List.pairwise_append.mp h).2.2 entry hentry _ List.mem_cons_self
    simpa using (String.ne_of_lt hlt).symm

/-- In an ascending list a key stands once. -/
theorem Ascending.eq_of_mem {a b : α} (h : Ascending list) (ha : (key, a) ∈ list)
    (hb : (key, b) ∈ list) : a = b := by
  rw [← h.lookup_eq_some_iff] at ha hb
  exact Option.some.inj (ha.symm.trans hb)

/-! ### Equality -/

/-- Ascending lists in which every search finds the same are the same. -/
theorem Ascending.ext {list' : List (String × α)} (h : Ascending list) (h' : Ascending list')
    (hget : ∀ key, get? key list = get? key list') : list = list' := by
  have : Std.Irrefl fun a b : String × α => a.1 < b.1 := ⟨fun a => String.lt_irrefl a.1⟩
  have : Std.Antisymm fun a b : String × α => a.1 < b.1 :=
    ⟨fun _ _ hab hba => absurd hba (String.lt_asymm hab)⟩
  apply List.Pairwise.eq_of_mem_iff h h'
  rintro ⟨key, value⟩
  rw [← h.get?_eq_some_iff, hget, h'.get?_eq_some_iff]

theorem insert_of_forall_lt (h : ∀ entry ∈ list, entry.1 < key) :
    insert key value list = list ++ [(key, value)] := by
  induction list with
  | nil => rfl
  | cons entry rest ih =>
    obtain ⟨hentry, hrest⟩ := List.forall_mem_cons.mp h
    rw [insert, if_neg (Ne.symm (String.ne_of_lt hentry)), if_neg (String.lt_asymm hentry),
      ih hrest, List.cons_append]

/-- Entries that follow a list in ascending order are appended to it one by one. -/
theorem foldl_insert_of_ascending {front back : List (String × α)}
    (h : Ascending (front ++ back)) :
    back.foldl (fun list entry => insert entry.1 entry.2 list) front = front ++ back := by
  induction back generalizing front with
  | nil => simp
  | cons entry back ih =>
    have hlt : ∀ e ∈ front, e.1 < entry.1 := by
      intro e he
      exact (List.pairwise_append.mp h).2.2 e he entry List.mem_cons_self
    rw [List.foldl_cons, insert_of_forall_lt hlt, ih (by simpa using h)]
    simp

/-- A list in ascending order is collected as it is. -/
theorem Ascending.ofList_eq (h : Ascending list) : ofList list = list :=
  foldl_insert_of_ascending h

/-! ### Changing values -/

/-- Values that are changed under their keys are found changed. -/
theorem get?_map (f : α → β) (key : String) (list : List (String × α)) :
    get? key (list.map fun entry => (entry.1, f entry.2)) = (get? key list).map f := by
  induction list with
  | nil => rfl
  | cons entry rest ih =>
    simp only [List.map_cons, get?, ih]
    split
    · rfl
    · split <;> rfl

theorem keys_map (f : α → β) (list : List (String × α)) :
    keys (list.map fun entry => (entry.1, f entry.2)) = keys list := by
  simp [keys]

theorem Ascending.map (h : Ascending list) (f : α → β) :
    Ascending (list.map fun entry => (entry.1, f entry.2)) :=
  List.pairwise_map.mpr h

/-- Values may be changed before they are inserted or afterwards. -/
theorem insert_map (f : α → β) (key : String) (value : α) (list : List (String × α)) :
    insert key (f value) (list.map fun entry => (entry.1, f entry.2)) =
      (insert key value list).map fun entry => (entry.1, f entry.2) := by
  induction list with
  | nil => rfl
  | cons entry rest ih =>
    simp only [List.map_cons, insert, ih]
    split
    · rfl
    · split <;> rfl

theorem foldl_insert_map (f : α → β) (entries list : List (String × α)) :
    (entries.map fun entry => (entry.1, f entry.2)).foldl
        (fun list entry => insert entry.1 entry.2 list)
        (list.map fun entry => (entry.1, f entry.2)) =
      (entries.foldl (fun list entry => insert entry.1 entry.2 list) list).map
        fun entry => (entry.1, f entry.2) := by
  induction entries generalizing list with
  | nil => rfl
  | cons entry entries ih => simp only [List.map_cons, List.foldl_cons, insert_map, ih]

/-- Values may be changed before they are collected or afterwards. -/
theorem ofList_map (f : α → β) (entries : List (String × α)) :
    ofList (entries.map fun entry => (entry.1, f entry.2)) =
      (ofList entries).map fun entry => (entry.1, f entry.2) :=
  foldl_insert_map f entries []

/-- A key that is bound already gets no second place. -/
theorem keys_insert_of_get?_eq_some {old : α} (h : get? key list = some old) :
    keys (insert key value list) = keys list := by
  induction list with
  | nil => simp at h
  | cons entry rest ih =>
    obtain ⟨k, v⟩ := entry
    rw [get?] at h
    split at h
    · next hk => simp [insert, keys, hk]
    · next hk =>
      split at h
      · simp at h
      · next hlt =>
        rw [insert, if_neg hk, if_neg hlt, keys, List.map_cons]
        exact congrArg (k :: ·) (ih h)

/-! ### Two insertions -/

/-- Of two insertions under one key the second one counts. -/
theorem insert_insert_self (key : String) (first second : α) (list : List (String × α)) :
    insert key second (insert key first list) = insert key second list := by
  induction list with
  | nil => simp [insert]
  | cons entry rest ih =>
    obtain ⟨k, v⟩ := entry
    by_cases hk : key = k
    · simp [insert, hk]
    · by_cases hlt : key < k
      · simp [insert, hk, hlt]
      · simp [insert, hk, hlt, ih]

theorem insert_comm_of_lt {key other : String} (h : key < other) (x y : α)
    (list : List (String × α)) :
    insert key x (insert other y list) = insert other y (insert key x list) := by
  have hne : key ≠ other := String.ne_of_lt h
  have hnot : ¬ other < key := String.lt_asymm h
  induction list with
  | nil => simp [insert, h, hne, hne.symm, hnot]
  | cons entry rest ih =>
    obtain ⟨k, v⟩ := entry
    by_cases hk : k < key
    · -- both go on behind `k`
      have hkey : key ≠ k := Ne.symm (String.ne_of_lt hk)
      have hlt : k < other := String.lt_trans hk h
      have hother : other ≠ k := Ne.symm (String.ne_of_lt hlt)
      simp [insert, hkey, String.lt_asymm hk, hother, String.lt_asymm hlt, ih]
    · by_cases heq : key = k
      · -- the smaller one takes the place of `k`, the other one goes on
        simp [insert, ← heq, hne.symm, hnot]
      · -- the smaller one comes first, wherever the other one goes
        have hlt : key < k := Std.lt_of_le_of_ne (String.not_lt.mp hk) heq
        have hsmall : insert key x ((k, v) :: rest) = (key, x) :: (k, v) :: rest := by
          rw [insert, if_neg heq, if_pos hlt]
        have hlarge : insert other y ((key, x) :: (k, v) :: rest) =
            (key, x) :: insert other y ((k, v) :: rest) := by
          rw [insert, if_neg hne.symm, if_neg hnot]
        rw [hsmall, hlarge, insert]
        split
        · simp [insert, hne, h]
        · split
          · simp [insert, hne, h]
          · simp [insert, heq, hlt]

/-- Insertions under different keys may change places. -/
theorem insert_comm {key other : String} (h : key ≠ other) (x y : α) (list : List (String × α)) :
    insert key x (insert other y list) = insert other y (insert key x list) := by
  by_cases hlt : key < other
  · exact insert_comm_of_lt hlt x y list
  · have hgt : other < key := Std.lt_of_le_of_ne (String.not_lt.mp hlt) h.symm
    exact (insert_comm_of_lt hgt y x list).symm

end ConfigLayers.Keyed
