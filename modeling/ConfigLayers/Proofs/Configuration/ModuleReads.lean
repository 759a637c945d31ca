import ConfigLayers.Proofs.Configuration.ModuleFates
import ConfigLayers.Proofs.Configuration.Reads

/-!
# Reads inside a module and reads from the root

A read inside a module comes to the same node as the read from the root whose path goes through the
module, whether or not there is such a module. Both have the same result therefore, but for the path
that an error names.
-/

namespace ConfigLayers

/-- The errors differ at most in the path that they name. -/
inductive Error.SameButPath : Error → Error → Prop
  | notBound (path path' : String) : SameButPath (.notBound path) (.notBound path')
  | wrongFormat (path path' : String) (reason : FormatError) :
      SameButPath (.wrongFormat path reason) (.wrongFormat path' reason)

/-- The reads have the same value, or they fail for the same reason. -/
inductive SameResult {α : Type} : Except Error α → Except Error α → Prop
  | ok (value : α) : SameResult (.ok value) (.ok value)
  | error {error error' : Error} (h : error.SameButPath error') :
      SameResult (.error error) (.error error')

namespace Configuration

variable {α : Type} {c : Configuration} {path path' name : String} {module? module?' : Option String}
  {convert : Conversion α} {node? : Option Node} {result result' : Except Error α}

theorem Fetched.sameResult (h : Fetched path convert node? result)
    (h' : Fetched path' convert node? result') : SameResult result result' := by
  cases h with
  | value h =>
    cases h' with
    | value h' =>
      obtain rfl := Except.ok.inj (h.symm.trans h')
      exact .ok _
    | unfit h' => exact absurd (h.symm.trans h') (by simp)
  | unfit h =>
    cases h' with
    | value h' => exact absurd (h.symm.trans h') (by simp)
    | unfit h' =>
      obtain rfl := Except.error.inj (h.symm.trans h')
      exact .error (.wrongFormat _ _ _)
  | missing label =>
    cases h' with
    | missing label' => exact .error (.notBound _ _)

/-- Reads that come to the same node, or both to none, have the same result. -/
theorem sameResult_read [Inspect α]
    (h : c.addressed? path module? = c.addressed? path' module?') (default : Option α)
    (convert : Conversion α) :
    SameResult (c.read path default convert module?).value
      (c.read path' default convert module?').value := by
  have hfetched := fetched_fetch c path convert module?
  rw [h] at hfetched
  have hsame := hfetched.sameResult (fetched_fetch c path' convert module?')
  cases default with
  | none => rwa [value_read_none, value_read_none]
  | some default =>
    rw [value_read_some, value_read_some]
    generalize c.fetch path convert module? = result at *
    generalize c.fetch path' convert module?' = result' at *
    cases hsame <;> exact .ok _

/-- A read inside a module comes to the node at the end of the path through the module. -/
theorem addressed?_module (c : Configuration) (hname : '.' ∉ name.toList) (path : String) :
    c.addressed? path (some name) = c.addressed? (modulePath name ++ "." ++ path) none := by
  have hkeys : Path.keys (modulePath name ++ "." ++ path) =
      [modulesKey, name] ++ Path.keys path := by
    rw [Path.keys_append, keys_modulePath hname]
  rw [addressed?, addressed?, scope?_some, scope?_none, Option.bind_assoc, hkeys]
  congr 1
  funext t
  rw [Tree.find?_append t (List.cons_ne_nil _ _), Option.bind_assoc]
  congr 1
  funext node
  rw [Node.at?_of_ne_nil node (Path.keys_ne_nil path)]

/-- In every state of a configuration a read inside a module has the same result as the read from
the root through this module: for nodes, for scalars by any coercion, for sections of any shape and
for any other conversion. -/
theorem module_read_same (c : Configuration) (name path : String) (hname : '.' ∉ name.toList) :
    let rooted := modulesKey ++ "." ++ name ++ "." ++ path
    (∀ default : Option Node,
      SameResult (c.get path default (some name)).value (c.get rooted default none).value) ∧
    (∀ {α : Type} [Inspect α] (default : Option α) (coerce : Coercion α),
      SameResult (c.getAs path default coerce (some name)).value
        (c.getAs rooted default coerce none).value) ∧
    (∀ (default : Option Bound) (shape : Shape),
      SameResult (c.getSection path default shape (some name)).value
        (c.getSection rooted default shape none).value) ∧
    (∀ {α : Type} [Inspect α] (default : Option α) (convert : Conversion α),
      SameResult (c.read path default convert (some name)).value
        (c.read rooted default convert none).value) := by
  have hnode := addressed?_module c hname path
  refine ⟨?_, ?_, ?_, ?_⟩
  · intro default
    exact sameResult_read hnode default .node
  · intro α _ default coerce
    exact sameResult_read hnode default (.scalar coerce)
  · intro default shape
    exact sameResult_read hnode default (.bindTo shape)
  · intro α _ default convert
    exact sameResult_read hnode default convert

/-- A configuration with a module whose name is empty. -/
def namelessModule : Configuration :=
  { sample with snapshot? := some (.ofEntries
      [(modulesKey, .tree (.ofEntries [("", .tree (.ofEntries [("", .string "8080")]))]))]) }

/-- A module without a name is read from the root as well, and a module that is not there is missed
by both reads. -/
theorem module_read_same_nameless :
    '.' ∉ "".toList ∧
      (namelessModule.getAs "" none (Coerce.integer .u16) (some "")).value = .ok 8080 ∧
      SameResult (namelessModule.getAs "" none (Coerce.integer .u16) (some "")).value
        (namelessModule.getAs "modules.." none (Coerce.integer .u16) none).value ∧
      SameResult (namelessModule.get "x" none (some "m")).value
        (namelessModule.get "modules.m.x" none none).value := by
  refine ⟨by decide, rfl, ?_, ?_⟩
  · exact (module_read_same namelessModule "" "" (by decide)).2.1 none (Coerce.integer .u16)
  · exact (module_read_same namelessModule "m" "x" (by decide)).1 none

end Configuration

end ConfigLayers
