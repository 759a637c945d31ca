/-!
# Keyed lists

Association lists in ascending key order, the order of the keys' code points. A search stops at the
first key beyond the one it looks for, and an insertion stops there too, so that the laws between
`get?` and `insert` hold for every list and `Ascending` is needed only where the order itself shows.
-/

namespace ConfigLayers.Keyed

variable {α β : Type}

def get? (key : String) : List (String × α) → Option α
  | [] => none
  | (k, v) :: rest => if key = k then some v else if key < k then none else get? key rest

/-- Binds `key` to `value`, in place of what it was bound to. -/
def insert (key : String) (value : α) : List (String × α) → List (String × α)
  | [] => [(key, value)]
  | (k, v) :: rest =>
    if key = k then (key, value) :: rest
    else if key < k then (key, value) :: (k, v) :: rest
    else (k, v) :: insert key value rest

/-- The list that binds each key to its last value. -/
def ofList (entries : List (String × α)) : List (String × α) :=
  entries.foldl (fun list entry => insert entry.1 entry.2 list) []

def keys (list : List (String × α)) : List String := list.map Prod.fst

/-- Each key is smaller than all that follow it. -/
def Ascending (list : List (String × α)) : Prop := list.Pairwise fun a b => a.1 < b.1

/-! ### Laws -/

@[simp] theorem get?_nil (key : String) : get? key ([] : List (String × α)) = none := rfl

@[simp] theorem insert_nil (key : String) (value : α) : insert key value [] = [(key, value)] := rfl

/-- A key is bound to what was inserted last. -/
@[simp] theorem get?_insert_self (key : String) (value : α) (list : List (String × α)) :
    get? key (insert key value list) = some value := by
  induction list with
  | nil => simp [get?]
  | cons entry rest ih =>
    obtain ⟨k, v⟩ := entry
    rw [insert]
    split
    · simp [get?]
    · split
      · simp [get?]
      · simp [get?, *]

/-- Inserting under one key leaves what every other key is bound to, whether or not the list is in
order: a search that stops at the new entry would have stopped at the one after it. -/
theorem get?_insert_of_ne {key other : String} (h : other ≠ key) (value : α)
    (list : List (String × α)) : get? other (insert key value list) = get? other list := by
  induction list with
  | nil => simp [get?, h]
  | cons entry rest ih =>
    obtain ⟨k, v⟩ := entry
    rw [insert]
    split
    · next hk =>
      subst hk
      rw [get?, if_neg h, get?, if_neg h]
    · split
      · next hlt =>
        rw [get?, if_neg h]
        split
        · next hother =>
          have hk : other < k := String.lt_trans hother hlt
          rw [get?, if_neg (String.ne_of_lt hk), if_pos hk]
        · rfl
      · rw [get?, get?, ih]

/-- Binding a key to what it is bound to already changes nothing. -/
theorem insert_of_get?_eq_some {key : String} {value : α} {list : List (String × α)}
    (h : get? key list = some value) : insert key value list = list := by
  induction list with
  | nil => simp at h
  | cons entry rest ih =>
    obtain ⟨k, v⟩ := entry
    rw [get?] at h
    split at h
    · next hk => simp_all [insert]
    · next hk =>
      split at h
      · simp at h
      · next hlt => simp [insert, hk, hlt, ih h]

end ConfigLayers.Keyed
