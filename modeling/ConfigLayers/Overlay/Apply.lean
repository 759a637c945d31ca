import ConfigLayers.Overlay.Argument
import ConfigLayers.Tree.Paths
import ConfigLayers.Event

/-!
# The overlay

The tokens of a command line are written over a tree, one after the other. The root key `default` is
bound to an empty list first and collects the bare tokens; an assignment writes a string. A token
that cannot be applied has no effect on those after it. `Outcome` says what became of each token,
and the report and the events are read off the outcomes.
-/

namespace ConfigLayers.Overlay

inductive Outcome where
  /-- The assignment was written. -/
  | assigned (name value : String)
  /-- The tree refused the assignment. -/
  | rejected (name value : String) (error : Error)
  /-- The bare token was added to the list. -/
  | collected (token : String)
  /-- The bare token was dropped: `default` is no list any more. -/
  | lost (token : String)
  /-- The malformed token was dropped. -/
  | malformed (token : String)

/-- What became of the tokens of a run, in the order of the tokens. -/
structure Report where
  /-- The names that were written. -/
  assigned : List String
  /-- The number of bare tokens that were added to the list. -/
  defaults : Nat
  /-- The tokens that were dropped. -/
  dropped : List String
  /-- The names that were refused, with the reason. -/
  rejected : List (String × Error)

namespace Outcome

def assigned? : Outcome → Option String
  | assigned name _ => some name
  | _ => none

def isCollected : Outcome → Bool
  | collected _ => true
  | _ => false

def dropped? : Outcome → Option String
  | lost token | malformed token => some token
  | _ => none

/-- The name that was refused, with the reason. -/
def rejected? : Outcome → Option (String × Error)
  | rejected name _ error => some (name, error)
  | _ => none

def assignmentEvents (name value : String) : List Event :=
  .assignmentRead name value ::
    (if (Path.keys name).length = 1 then [.rootAssignment name value] else [])

def events : Outcome → List Event
  | assigned name value => assignmentEvents name value
  | rejected name value error => assignmentEvents name value ++ [.assignmentRejected name error]
  | collected _ => []
  | lost token => [.bareTokenLost token]
  | malformed token => [.tokenMalformed token]

def report (outcomes : List Outcome) : Report where
  assigned := outcomes.filterMap assigned?
  defaults := outcomes.countP isCollected
  dropped := outcomes.filterMap dropped?
  rejected := outcomes.filterMap rejected?

end Outcome

/-! ### Applying tokens -/

/-- Writes a string under a name: a name of one segment is a key of the root. -/
def assign (t : Tree) (name value : String) : Tree.Written :=
  if (Path.keys name).length = 1 then t.assignInPlace name (.string value)
  else t.setInPlace (Path.keys name) (.string value)

/-- Adds a token to the list of bare tokens, if there is one. -/
def collect? (t : Tree) (token : String) : Option Tree :=
  match t.get? defaultKey with
  | some (.list items) => some (t.insert defaultKey (.list (items ++ [.string token])))
  | _ => none

def step (t : Tree) : Argument → Tree × Outcome
  | .bare token =>
    match collect? t token with
    | some t => (t, .collected token)
    | none => (t, .lost token)
  | .assignment name value =>
    match assign t name value with
    | ⟨.ok (), t⟩ => (t, .assigned name value)
    | ⟨.error error, t⟩ => (t, .rejected name value error)
  | .malformed token => (t, .malformed token)

def run (t : Tree) : List Argument → Tree × List Outcome
  | [] => (t, [])
  | argument :: arguments =>
    let (t, outcome) := step t argument
    let (t, outcomes) := run t arguments
    (t, outcome :: outcomes)

/-- The tree that a run starts from: without bare tokens. -/
def start (t : Tree) : Tree := t.insert defaultKey (.list [])

/-- What becomes of the tokens after the program name. -/
def outcomes (args : List String) (t : Tree) : Tree × List Outcome :=
  run (start t) ((args.drop 1).map Argument.classify)

/-- Overlays an argument vector, the program first, onto a tree. -/
def apply (args : List String) (t : Tree) : Logged Event (Tree × Report) :=
  let (t, outcomes) := outcomes args t
  ⟨(t, Outcome.report outcomes), .argumentsPassed (args.drop 1) :: outcomes.flatMap Outcome.events⟩

end ConfigLayers.Overlay
