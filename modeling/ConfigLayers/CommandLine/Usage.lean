import ConfigLayers.Configuration.Options

/-!
# The command line

What the words of a command line ask for. Options may stand before or after the name of the command;
those of the program itself are known in both places, and of two values for one option the one after
the name counts. What follows `--` is left to the overlay.
-/

namespace ConfigLayers.CommandLine

/-! ### What can be asked for -/

/-- How a value is coerced before it is printed. -/
inductive ValueType where
  | raw
  | string
  | int
  | float
  | bool
  deriving DecidableEq

def ValueType.ofName? : String → Option ValueType
  | "raw" => some raw
  | "string" => some string
  | "int" => some int
  | "float" => some float
  | "bool" => some bool
  | _ => none

inductive Command where
  | show (module? : Option String)
  | get (path : String) (module? default? : Option String) (type : ValueType)
  | exists (path : String)
  | modules
  deriving DecidableEq

/-- A command with the options of the program. -/
structure Invocation where
  command : Command
  inMemory : Bool
  configDir : Option String
  configName : Option String
  verbose : Bool
  overrides : List String
  deriving DecidableEq

inductive Refusal where
  | usage
  | help
  | version
  deriving DecidableEq

/-! ### Words -/

inductive Word where
  | separator
  | long (name : String) (value? : Option String)
  | short (letters : List Char)
  | plain

def Word.ofString (word : String) : Word :=
  match word.toList with
  | ['-', '-'] => separator
  | '-' :: '-' :: cs =>
    long (String.ofList (cs.takeWhile (· ≠ '=')))
      (match cs.dropWhile (· ≠ '=') with
      | [] => none
      | _ :: value => some (String.ofList value))
  | '-' :: c :: cs => short (c :: cs)
  | _ => plain

/-- The word can be the value of an option before it. -/
def isPlain (word : String) : Bool :=
  match Word.ofString word with
  | .plain => true
  | _ => false

/-! ### Options -/

/-- What stood on the command line so far, at one level. -/
structure Found where
  inMemory : Bool
  verbose : Bool
  values : List (String × String)
  operands : List String
  overrides : List String

namespace Found

def empty : Found := ⟨false, false, [], [], []⟩

def value? (found : Found) (name : String) : Option String := found.values.lookup name

end Found

/-- What one level of the command line knows. -/
structure Grammar where
  options : List String
  operands : Nat
  version : Bool

namespace Grammar

/-- The options that are known everywhere. -/
def sharedOptions : List String := ["conf-dir", "name"]

/-- The words before the name of the command. -/
def program : Grammar := ⟨sharedOptions, 0, true⟩

/-- The words after the name of a command. -/
def ofCommand? : String → Option Grammar
  | "show" => some ⟨"module" :: sharedOptions, 0, false⟩
  | "get" => some ⟨["module", "default", "as"] ++ sharedOptions, 1, false⟩
  | "exists" => some ⟨sharedOptions, 1, false⟩
  | "modules" => some ⟨sharedOptions, 0, false⟩
  | _ => none

/-- Help can be asked for with these words: on the program, or on one command. -/
def isHelpTopic : List String → Bool
  | [] => true
  | [name] => name = "help" || (ofCommand? name).isSome
  | _ => false

/-- Takes an option with its value: each at most once, a directory not empty, a type by its name. -/
def addValue (found : Found) (name value : String) : Except Refusal Found :=
  if (found.value? name).isSome then .error .usage
  else if name = "conf-dir" ∧ value = "" then .error .usage
  else if name = "as" ∧ (ValueType.ofName? value).isNone then .error .usage
  else .ok { found with values := found.values ++ [(name, value)] }

/-- Takes a flag by its long name, at most once. -/
def addFlag (g : Grammar) (found : Found) (name : String) : Except Refusal Found :=
  if name = "in-memory" ∧ ¬ found.inMemory then .ok { found with inMemory := true }
  else if name = "verbose" ∧ ¬ found.verbose then .ok { found with verbose := true }
  else if name = "help" then .error .help
  else if name = "version" ∧ g.version then .error .version
  else .error .usage

def addLetter (g : Grammar) (found : Found) (letter : Char) : Except Refusal Found :=
  match letter with
  | 'v' => g.addFlag found "verbose"
  | 'h' => .error .help
  | 'V' => if g.version then .error .version else .error .usage
  | _ => .error .usage

/-- Takes the options at the front of the words, and leaves the words from the first one on that is
no option. An option without an equals sign takes the next word, which must be plain. -/
def takeOptions (g : Grammar) (found : Found) : List String → Except Refusal (Found × List String)
  | [] => .ok (found, [])
  | word :: words =>
    match Word.ofString word with
    | .separator | .plain => .ok (found, word :: words)
    | .short letters => do
      let found ← letters.foldlM g.addLetter found
      g.takeOptions found words
    | .long name (some value) =>
      if name ∈ g.options then do
        let found ← addValue found name value
        g.takeOptions found words
      else .error .usage
    | .long name none =>
      if name ∈ g.options then
        match words with
        | value :: words =>
          if isPlain value then do
            let found ← addValue found name value
            g.takeOptions found words
          else .error .usage
        | [] => .error .usage
      else do
        let found ← g.addFlag found name
        g.takeOptions found words

/-- Takes all words, at most `count` of them plain before the separator. -/
def takeWords (g : Grammar) : Nat → Found → List String → Except Refusal Found
  | count, found, words => do
    let (found, words) ← g.takeOptions found words
    match words with
    | [] => return found
    | word :: words =>
      if word = "--" then return { found with overrides := words }
      else match count with
        | 0 => .error .usage
        | count + 1 => g.takeWords count { found with operands := found.operands ++ [word] } words

end Grammar

/-! ### Commands -/

/-- The command of this name with what stood after it. -/
def commandOf? (name : String) (found : Found) : Option Command :=
  match name, found.operands with
  | "show", [] => some (.show (found.value? "module"))
  | "get", [path] =>
    some (.get path (found.value? "module") (found.value? "default")
      (((found.value? "as").bind ValueType.ofName?).getD .raw))
  | "exists", [path] => some (.exists path)
  | "modules", [] => some .modules
  | _, _ => none

/-- What the words after the program name ask for. -/
def parse (words : List String) : Except Refusal Invocation := do
  let (before, words) ← Grammar.program.takeOptions .empty words
  match words with
  | [] => .error .usage
  | name :: words =>
    match Grammar.ofCommand? name with
    | none => .error (if name = "help" ∧ Grammar.isHelpTopic words then .help else .usage)
    | some g =>
      let after ← g.takeWords g.operands .empty words
      match commandOf? name after with
      | none => .error .usage
      | some command =>
        return {
          command := command
          inMemory := before.inMemory || after.inMemory
          configDir := after.value? "conf-dir" <|> before.value? "conf-dir"
          configName := after.value? "name" <|> before.value? "name"
          verbose := before.verbose || after.verbose
          overrides := after.overrides }

end ConfigLayers.CommandLine
