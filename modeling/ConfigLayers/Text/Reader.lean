/-!
# Readers

A reader takes a value off the front of a text and leaves the rest, or fails. Readers compose with
`do`, and `p <|> q` starts `q` where `p` started.
-/

namespace ConfigLayers

/-- Takes a value off the front of a text. -/
abbrev Reader := StateT (List Char) Option

namespace Reader

def rest : Reader (List Char) := get

/-- The next character, if there is one, without taking it. -/
def peek? : Reader (Option Char) := fun cs => some (cs.head?, cs)

def charOf (p : Char → Bool) : Reader Char
  | [] => none
  | c :: cs => if p c then some (c, cs) else none

def char (c : Char) : Reader Unit
  | [] => none
  | d :: cs => if d = c then some ((), cs) else none

/-- The characters of `word`, one after the other. -/
def word : List Char → Reader Unit
  | [] => pure ()
  | c :: cs => do char c; word cs

/-- The longest run of characters of a class, possibly empty. -/
def run (p : Char → Bool) : Reader (List Char) := fun cs => some (cs.takeWhile p, cs.dropWhile p)

/-- The longest run of characters of a class, with at least one. -/
def run1 (p : Char → Bool) : Reader (List Char) := do
  let cs ← run p
  guard (cs ≠ [])
  return cs

def ended : Reader Unit := fun cs => if cs.isEmpty then some ((), cs) else none

/-- The value of a reader that takes the whole text. -/
def readAll {α : Type} (p : Reader α) (cs : List Char) : Option α :=
  match p cs with
  | some (value, []) => some value
  | _ => none

end Reader

end ConfigLayers
