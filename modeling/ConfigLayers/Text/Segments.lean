/-!
# Segments

Cutting a text at every occurrence of a separator, and joining the pieces again. A dotted path is
cut at `'.'` and a comma list at `','`. Nothing is lost: `join` undoes `segments`.
-/

namespace ConfigLayers.Text

/-- Puts `c` in front of the first piece. -/
def consFirst (c : Char) : List (List Char) → List (List Char)
  | [] => [[c]]
  | piece :: pieces => (c :: piece) :: pieces

/-- The pieces of `cs` between the occurrences of `sep`; one more than there are separators. -/
def pieces (sep : Char) : List Char → List (List Char)
  | [] => [[]]
  | c :: cs => if c = sep then [] :: pieces sep cs else consFirst c (pieces sep cs)

/-- The pieces with `sep` between each two neighbours. -/
def glue (sep : Char) : List (List Char) → List Char
  | [] => []
  | [piece] => piece
  | piece :: next :: rest => piece ++ sep :: glue sep (next :: rest)

def segments (sep : Char) (s : String) : List String :=
  (pieces sep s.toList).map String.ofList

/-- The texts with `sep` between each two neighbours. -/
def join (sep : Char) (parts : List String) : String :=
  String.ofList (glue sep (parts.map String.toList))

/-! ### Laws -/

@[simp] theorem consFirst_ne_nil (c : Char) (ps : List (List Char)) : consFirst c ps ≠ [] := by
  cases ps <;> simp [consFirst]

@[simp] theorem pieces_nil (sep : Char) : pieces sep [] = [[]] := rfl

@[simp] theorem pieces_ne_nil (sep : Char) (cs : List Char) : pieces sep cs ≠ [] := by
  cases cs with
  | nil => simp
  | cons c cs => by_cases h : c = sep <;> simp [pieces, h]

theorem glue_consFirst (sep c : Char) {ps : List (List Char)} (h : ps ≠ []) :
    glue sep (consFirst c ps) = c :: glue sep ps := by
  match ps, h with
  | [piece], _ => rfl
  | piece :: next :: rest, _ => rfl

theorem glue_nil_cons (sep : Char) {ps : List (List Char)} (h : ps ≠ []) :
    glue sep ([] :: ps) = sep :: glue sep ps := by
  match ps, h with
  | next :: rest, _ => rfl

/-- Joining the pieces gives the text back. -/
@[simp] theorem glue_pieces (sep : Char) (cs : List Char) : glue sep (pieces sep cs) = cs := by
  induction cs with
  | nil => rfl
  | cons c cs ih =>
    by_cases h : c = sep
    · simp [pieces, h, glue_nil_cons, ih]
    · simp [pieces, h, glue_consFirst, ih]

end ConfigLayers.Text
