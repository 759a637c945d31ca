import ConfigLayers.Toml.Basic
import ConfigLayers.Keyed

/-!
# Tables under construction

While a document is read, a table remembers how it came to be: by a header of its own, on the way of
a longer header, or by a dotted key. A header opens a table only once, dotted keys extend only what
dotted keys made, and a value is never extended.
-/

namespace ConfigLayers.Toml

inductive Origin where
  /-- By a header of its own. -/
  | header
  /-- On the way of a longer header. -/
  | onTheWay
  /-- By a dotted key. -/
  | dottedKey
  deriving DecidableEq

/-- What a key is bound to while the document is read. -/
inductive Draft where
  /-- A finished value. -/
  | value (v : Value)
  /-- A table. -/
  | table (origin : Origin) (entries : List (String × Draft))
  /-- An array of tables, the last one first. -/
  | tables (items : List (List (String × Draft)))

namespace Draft

abbrev Entries := List (String × Draft)

/-- Changes the table at the end of a way; tables that are not there yet are made. In an array of
tables the way goes through the last one. -/
def update (dotted : Bool) (change : Origin → Entries → Option Entries) :
    List String → Origin → Entries → Option Entries
  | [], origin, es => change origin es
  | key :: keys, _, es =>
    match Keyed.get? key es with
    | none => do
      let origin := if dotted then Origin.dottedKey else Origin.onTheWay
      let sub ← update dotted change keys origin []
      return Keyed.insert key (.table origin sub) es
    | some (.table origin sub) =>
      if dotted ∧ origin = .header then none
      else do
        let sub ← update dotted change keys origin sub
        return Keyed.insert key (.table origin sub) es
    | some (.tables (last :: before)) => do
      let last ← update dotted change keys .header last
      return Keyed.insert key (.tables (last :: before)) es
    | some _ => none

/-- Splits the keys of a way into those before the last one and the last one. -/
def splitLast? (keys : List String) : Option (List String × String) :=
  keys.getLast?.map (keys.dropLast, ·)

def openTable (keys : List String) (root : Entries) : Option Entries := do
  let (way, key) ← splitLast? keys
  update false (fun _ es =>
    match Keyed.get? key es with
    | none => some (Keyed.insert key (.table .header []) es)
    | some (.table .onTheWay sub) => some (Keyed.insert key (.table .header sub) es)
    | some _ => none) way .header root

/-- Appends a table to the array of a header. -/
def openItem (keys : List String) (root : Entries) : Option Entries := do
  let (way, key) ← splitLast? keys
  update false (fun _ es =>
    match Keyed.get? key es with
    | none => some (Keyed.insert key (.tables [[]]) es)
    | some (.tables items) => some (Keyed.insert key (.tables ([] :: items)) es)
    | some _ => none) way .header root

/-- Binds a key, dotted or not, in a table. It must be new, and a dotted one must lie in a table
that dotted keys made. -/
def assign (keys : List String) (value : Value) (es : Entries) : Option Entries := do
  let (way, key) ← splitLast? keys
  let dotted := way ≠ []
  update dotted (fun origin es =>
    if dotted ∧ origin ≠ .dottedKey then none
    else match Keyed.get? key es with
      | none => some (Keyed.insert key (.value value) es)
      | some _ => none) way .header es

/-- Binds a key in the table of a header. -/
def assignUnder (header keys : List String) (value : Value) (root : Entries) : Option Entries :=
  update false (fun _ es => assign keys value es) header .header root

mutual
/-- The value of a draft. -/
def finish : Draft → Value
  | value v => v
  | table _ es => .table (finishEntries es)
  | tables items => .array (finishTables [] items)
termination_by structural draft => draft
def finishEntries : List (String × Draft) → List (String × Value)
  | [] => []
  | (key, draft) :: es => (key, draft.finish) :: finishEntries es
termination_by structural es => es
/-- The tables of an array in their order, before those that follow them. -/
def finishTables (after : List Value) : List (List (String × Draft)) → List Value
  | [] => after
  | es :: items => finishTables (.table (finishEntries es) :: after) items
termination_by structural items => items
end

end Draft

end ConfigLayers.Toml
