import ConfigLayers.CommandLine.Usage
import ConfigLayers.Configuration.Basic
import ConfigLayers.Json.Printer

/-!
# Running a command

A command loads the configuration and prints what it is asked for. What it prints and how it ends
is a function of the words of the command line and of the files.
-/

namespace ConfigLayers.CommandLine

/-- How a run ends: the exit code, and what is printed on the two outputs, line by line. -/
structure Exit where
  code : UInt8
  out : List String
  err : List String
  deriving DecidableEq

/-! ### Failures -/

/-- A failure: what went wrong, and the causes from the nearest on. -/
structure Failure where
  message : String
  causes : List String

namespace Failure

/-- The failure of an operation on a configuration. -/
def ofError (error : Error) : Failure := ⟨error.message, error.cause?.toList⟩

/-- A text whose lines after the first are indented. -/
def hang (indent text : String) : String :=
  ("\n" ++ indent).intercalate (Text.segments '\n' text)

/-- The causes under their heading: a single one indented, several ones with their numbers. -/
def causeLines : List String → List String
  | [] => []
  | [cause] => ["", "Caused by:", "    " ++ hang "    " cause]
  | causes =>
    "" :: "Caused by:" ::
      causes.mapIdx fun i cause => "    " ++ toString i ++ ": " ++ hang "       " cause

def lines (failure : Failure) : List String :=
  ("error: " ++ failure.message) :: causeLines failure.causes

end Failure

/-! ### Commands -/

/-- The options that an invocation of the program makes. -/
def Invocation.options (program : String) (i : Invocation) : Options where
  inMemory := i.inMemory
  configDir := i.configDir
  configName := i.configName
  args := some (program :: i.overrides)

/-- The configuration of an invocation before it is loaded. -/
def Invocation.configuration (program : String) (i : Invocation) : Configuration :=
  .ofOptions [program] (i.options program)

/-- The loaded configuration of an invocation. -/
def openConfiguration (files : FileSystem) (program : String) (i : Invocation) :
    Logged Event (Except Failure Configuration) := do
  let (result, c) ← (i.configuration program).load files
  return match result with
    | .ok () => .ok c
    | .error error =>
      .error ⟨"Failed to load " ++ c.basePath, error.message :: error.cause?.toList⟩

/-- Strings are printed as they are, all else as JSON. -/
def render : Node → String
  | .string s => s
  | node => node.toJson.compact

def runShow (c : Configuration) : Option String → Logged Event (Except Failure Exit)
  | none => return .ok ⟨0, [((c.snapshot?.map Tree.toJson).getD .null).pretty], []⟩
  | some name => do
    match ← c.moduleTree? name with
    | some t => return .ok ⟨0, [t.toJson.pretty], []⟩
    | none => return .error ⟨"Module not resolved: " ++ name, []⟩

/-- Reads a value of some type and prints it. The default has to be of this type too. -/
def readAndPrint {α : Type} [Inspect α] (c : Configuration) (path : String)
    (module? default? : Option String) (coerce : Coercion α) (print : α → String) :
    Logged Event (Except Failure String) :=
  match default?.mapM coerce with
  | .error error => return .error ⟨error.message, []⟩
  | .ok default => do
    let result ← c.getAs path default coerce module?
    return (result.map print).mapError Failure.ofError

def printed (c : Configuration) (path : String) (module? default? : Option String) :
    ValueType → Logged Event (Except Failure String)
  | .raw => do
    let result ← c.get path (default?.map .string) module?
    return (result.map render).mapError Failure.ofError
  | .string => readAndPrint c path module? default? Coerce.string id
  | .int => readAndPrint c path module? default? (Coerce.integer .i64) toString
  | .float => readAndPrint c path module? default? Coerce.float (Extended.text .plain)
  | .bool => readAndPrint c path module? default? Coerce.boolean (if · then "true" else "false")

def runGet (c : Configuration) (path : String) (module? default? : Option String)
    (type : ValueType) : Logged Event (Except Failure Exit) := do
  let result ← printed c path module? default? type
  return result.map fun line => ⟨0, [line], []⟩

/-- Tells whether a path is bound, also by the exit code. -/
def runExists (c : Configuration) (path : String) : Exit :=
  if c.isBound path then ⟨0, ["true"], []⟩ else ⟨1, ["false"], []⟩

/-- What became of a module: its name, and its tree, its file or what else it is bound to. -/
def moduleLine (failed : List (String × Error)) (name : String) : Node → String
  | .tree t => name ++ ": resolved (" ++ toString t.size ++ " keys)"
  | .string file =>
    name ++ ": unresolved (" ++ file ++ ")" ++
      (match failed.lookup name with
      | some error => ": " ++ error.describe
      | none => "")
  | leaf => name ++ ": invalid (" ++ leaf.kind.name ++ ")"

def runModules (c : Configuration) : Exit :=
  match c.snapshot?.bind (·.subtree? modulesKey) with
  | none => ⟨0, ["No modules configured."], []⟩
  | some modules =>
    ⟨0, modules.entries.map fun entry => moduleLine c.issues.failedModules entry.1 entry.2, []⟩

/-- Runs a command on a loaded configuration. -/
def Command.run (c : Configuration) : Command → Logged Event (Except Failure Exit)
  | .show module? => runShow c module?
  | .get path module? default? type => runGet c path module? default? type
  | .exists path => return .ok (runExists c path)
  | .modules => return .ok (runModules c)

def Invocation.run (files : FileSystem) (program : String) (i : Invocation) :
    Logged Event Exit := do
  let result ← match ← openConfiguration files program i with
    | .ok c => i.command.run c
    | .error failure => return ⟨1, [], failure.lines⟩
  return match result with
    | .ok exit => exit
    | .error failure => ⟨1, [], failure.lines⟩

/-! ### The program -/

def versionLine : String := "layerconf 0.1.0"

def helpLines : List String :=
  ["Inspect layered configuration built from a base document, modules and command-line overrides",
    "",
    "Usage: layerconf [OPTIONS] <COMMAND>",
    "",
    "Commands:",
    "  show     Print the resolved tree as JSON",
    "  get      Print the value at a dotted path",
    "  exists   Exit successfully if the dotted path is bound",
    "  modules  List modules and whether each one was resolved",
    "",
    "Options:",
    "      --conf-dir <DIR>  Directory holding the base and module documents",
    "      --name <FILE>     File name of the base document",
    "      --in-memory       Start from an empty tree instead of reading any document",
    "  -v, --verbose         Enable verbose logging (sets log level to DEBUG)",
    "  -h, --help            Print help",
    "  -V, --version         Print version"]

/-- Runs the program on the words of its command line. -/
def run (files : FileSystem) (program : String) (words : List String) : Logged Event Exit :=
  match parse words with
  | .ok i => i.run files program
  | .error .version => return ⟨0, [versionLine], []⟩
  | .error .help => return ⟨0, helpLines, []⟩
  | .error .usage => return ⟨2, [], helpLines⟩

end ConfigLayers.CommandLine
