import ConfigLayers.Configuration.Options
import ConfigLayers.Path.Program
import ConfigLayers.Modules
import ConfigLayers.Overlay.Apply
import ConfigLayers.Tree.Reads

/-!
# Configurations

A configuration is made in layers: the base document, the documents of the modules, and the tokens
of the command line. Until a load succeeds, and after one has failed, every key is unbound.
-/

namespace ConfigLayers

/-- What a load absorbed instead of failing. -/
structure Issues where
  /-- The modules whose documents could not be read, with the reason. -/
  failedModules : List (String × Error)
  /-- The assignments that the tree refused, with the reason. -/
  rejectedOverrides : List (String × Error)

namespace Issues

def empty : Issues := ⟨[], []⟩

def isEmpty (issues : Issues) : Bool :=
  issues.failedModules.isEmpty && issues.rejectedOverrides.isEmpty

def reasons (problems : List (String × Error)) : List (String × String) :=
  problems.map fun p => (p.1, p.2.describe)

end Issues

structure Configuration where
  options : Options
  /-- The arguments of the process, which stand in where the options leave them open. -/
  processArgs : List String
  /-- How far the last load came. -/
  phase : Phase
  /-- The tree of the last load, if it succeeded. -/
  snapshot? : Option Tree
  /-- What the last load absorbed. -/
  issues : Issues

namespace Configuration

/-- A configuration that has not been loaded. -/
def ofOptions (processArgs : List String) (options : Options) : Configuration :=
  ⟨options, processArgs, .unloaded, none, .empty⟩

/-! ### Places -/

/-- The argument vector, the program first. -/
def args (c : Configuration) : List String := c.options.args.getD c.processArgs

def location (c : Configuration) : ProgramLocation := .ofProgram c.args.head?

def confDir (c : Configuration) : String :=
  c.options.configDir.getD (Path.join c.location.dir defaultConfigDir)

def configName (c : Configuration) : String := c.options.configName.getD defaultConfigName

def basePath (c : Configuration) : String := Path.join c.confDir c.configName

/-! ### Loading -/

/-- The tree of the base document, or the empty one. -/
def base (files : FileSystem) (c : Configuration) : Except Error Tree :=
  if c.options.inMemory then .ok .empty else Document.load files c.basePath

/-- The paths of the module documents that a load reads: those that the base document names. -/
def modulePaths (files : FileSystem) (c : Configuration) : List String :=
  match c.base files with
  | .ok t =>
    match t.subtree? modulesKey with
    | some modules => (Modules.references modules).map fun r => Path.join c.confDir r.file
    | none => []
  | .error _ => []

/-- The base tree with its modules resolved, and the modules that failed. -/
def resolveModules (files : FileSystem) (c : Configuration) (t : Tree) :
    Logged Event (Tree × List (String × Error)) :=
  if c.options.inMemory then pure (t, []) else Modules.resolve files c.confDir t

/-- How far a load has come: its phase, and what it has absorbed. -/
structure Progress where
  phase : Phase
  issues : Issues

def Progress.advance (p : Progress) (next : Phase) : Logged Event Progress :=
  ⟨{ p with phase := next }, [.phaseChanged p.phase next]⟩

open Logged (emit) in
/-- Puts the layers on one another. A base document that cannot be read ends the load early. -/
def resolve (files : FileSystem) (c : Configuration) (p : Progress) :
    Logged Event (Except Error Tree × Progress) := do
  match c.base files with
  | .error error => return (.error error, p)
  | .ok t =>
    if ¬ c.options.inMemory then emit (.baseLoaded c.configName)
    let p ← p.advance .baseLoaded
    let (t, failed) ← c.resolveModules files t
    let p ← { p with issues.failedModules := failed }.advance .modulesResolved
    let (t, report) ← Overlay.apply c.args t
    emit (.overlayApplied report.assigned.length report.defaults report.rejected.length)
    let p ← { p with issues.rejectedOverrides := report.rejected }.advance .overlaid
    return (.ok t, p)

open Logged (emit) in
/-- Loads the configuration from the files: a whole cycle, whatever came before. -/
def load (files : FileSystem) (c : Configuration) :
    Logged Event (Except Error Unit × Configuration) := do
  let p ← Progress.advance ⟨c.phase, .empty⟩ .unloaded
  let (resolved, p) ← c.resolve files p
  let c := { c with issues := p.issues }
  match resolved with
  | .ok t =>
    let p ← p.advance .ready
    return (.ok (), { c with snapshot? := some t, phase := p.phase })
  | .error error =>
    let p ← p.advance .failed
    emit (.loadFailed error)
    return (.error error, { c with snapshot? := none, phase := p.phase })

open Logged (emit) in
def reload (files : FileSystem) (c : Configuration) :
    Logged Event (Except Error Unit × Configuration) := do
  emit (.reloading c.basePath)
  c.load files

def opened (files : FileSystem) (processArgs : List String) (options : Options) :
    Logged Event (Except Error Configuration) := do
  let (result, c) ← (ofOptions processArgs options).load files
  return result.map fun _ => c

/-! ### Reading -/

/-- The dotted path is bound from the root. -/
def isBound (c : Configuration) (path : String) : Bool := c.snapshot?.any (·.isBound path)

/-- The tree that a read starts from: the root, or the tree of a module. -/
def scope? (c : Configuration) (module? : Option String) : Option Tree :=
  c.snapshot?.bind fun t =>
    match module? with
    | none => some t
    | some name => Modules.tree? t name

/-- The error of a read that has no tree to start from. -/
def outOfScope (path : String) : Option String → Error
  | none => .notBound path
  | some name => .notBound (modulesKey ++ "." ++ name ++ "." ++ path)

/-- Reads a node with a default, perhaps inside a module. -/
def read {α : Type} [Inspect α] (c : Configuration) (path : String) (default : Option α)
    (convert : Conversion α) (module? : Option String) : Logged Event (Except Error α) :=
  match c.scope? module? with
  | some t => t.read path default convert
  | none => fallback path default (outOfScope path module?)

def get (c : Configuration) (path : String) (default : Option Node) (module? : Option String) :
    Logged Event (Except Error Node) :=
  c.read path default .node module?

def getAs {α : Type} [Inspect α] (c : Configuration) (path : String) (default : Option α)
    (coerce : Coercion α) (module? : Option String) : Logged Event (Except Error α) :=
  c.read path default (.scalar coerce) module?

/-- Reads a node and binds it to a shape. -/
def getSection (c : Configuration) (path : String) (default : Option Bound) (shape : Shape)
    (module? : Option String) : Logged Event (Except Error Bound) :=
  c.read path default (.bindTo shape) module?

/-- The tree of a module, if it is resolved. -/
def moduleTree? (c : Configuration) (name : String) : Logged Event (Option Tree) :=
  ⟨c.snapshot?.bind (Modules.tree? · name), [.moduleAsked name]⟩

/-! ### In log lines -/

def inspectPhase : Phase → String
  | .unloaded => "Unloaded"
  | .baseLoaded => "BaseLoaded"
  | .modulesResolved => "ModulesResolved"
  | .overlaid => "Overlaid"
  | .ready => "Ready"
  | .failed => "Failed"

/-- The form of a configuration in log lines; not all its parts are shown. -/
def inspect (c : Configuration) : String :=
  "Configuration " ++ Inspect.braced ("conf_location: " ++ Text.quote c.confDir ++
    ", config_name: " ++ Text.quote c.configName ++ ", state: " ++ inspectPhase c.phase ++ ", ..")

instance : Inspect Configuration := ⟨inspect⟩

end Configuration

end ConfigLayers
