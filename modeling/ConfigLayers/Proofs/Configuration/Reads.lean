import ConfigLayers.Proofs.Modules
import ConfigLayers.Configuration.Basic

/-!
# The policy of reads

Every read goes one of three ways: it comes to a node that converts, to a node that does not, or to
none. Only in the first one it has a value of its own. In the other two it takes its default and
warns, or fails without one. This holds in every state of a configuration, for reads from the root
as for reads inside a module.
-/

namespace ConfigLayers.Configuration

variable {α : Type} {c : Configuration} {path : String} {module? : Option String}
  {convert : Conversion α}

/-! ### Addresses -/

/-- The tree that a read starts from: the published tree or, in it, the tree of a module. -/
inductive StartsFrom (c : Configuration) : Option String → Tree → Prop
  | root {t : Tree} (h : c.snapshot? = some t) : StartsFrom c none t
  | inModule {t sub : Tree} {name : String} (h : c.snapshot? = some t)
      (hsub : t.find? [modulesKey, name] = some (.tree sub)) : StartsFrom c (some name) sub

/-- The read comes to this node. -/
def Addresses (c : Configuration) (path : String) (module? : Option String) (node : Node) : Prop :=
  ∃ t, StartsFrom c module? t ∧ t.lookup path = .ok node

/-- Why a read comes to no node. -/
inductive Misses (c : Configuration) (path : String) : Option String → Prop
  | unpublished {module? : Option String} (h : c.snapshot? = none) : Misses c path module?
  | unresolved {t : Tree} {name : String} (h : c.snapshot? = some t)
      (hname : ∀ sub, t.find? [modulesKey, name] ≠ some (.tree sub)) : Misses c path (some name)
  | unbound {module? : Option String} {t : Tree} (h : StartsFrom c module? t)
      (hpath : t.isBound path = false) : Misses c path module?

theorem scope?_none (c : Configuration) : c.scope? none = c.snapshot? := by
  cases h : c.snapshot? <;> simp [scope?, h]

theorem scope?_some (c : Configuration) (name : String) :
    c.scope? (some name) =
      c.snapshot?.bind fun t => (t.find? [modulesKey, name]).bind Node.tree? := by
  simp only [scope?, Modules.tree?_eq_find?]

theorem scope?_eq_some_iff {t : Tree} : c.scope? module? = some t ↔ StartsFrom c module? t := by
  cases module? with
  | none =>
    rw [scope?_none]
    constructor
    · intro h
      exact .root h
    · rintro ⟨h⟩
      exact h
  | some name =>
    simp only [scope?_some, Option.bind_eq_some_iff, Node.tree?_eq_some_iff]
    constructor
    · rintro ⟨root, hroot, _, hsub, rfl⟩
      exact .inModule hroot hsub
    · rintro (_ | ⟨hroot, hsub⟩)
      exact ⟨_, hroot, _, hsub, rfl⟩

/-- The node that a read comes to, if there is one. -/
def addressed? (c : Configuration) (path : String) (module? : Option String) : Option Node :=
  (c.scope? module?).bind (·.find? (Path.keys path))

theorem addressed?_eq_some_iff {node : Node} :
    c.addressed? path module? = some node ↔ Addresses c path module? node := by
  rw [addressed?, Option.bind_eq_some_iff, Addresses]
  simp only [scope?_eq_some_iff, Tree.lookup_eq_ok_iff]

theorem addressed?_eq_none_iff : c.addressed? path module? = none ↔ Misses c path module? := by
  cases hscope : c.scope? module? with
  | some t =>
    have hstarts := scope?_eq_some_iff.mp hscope
    rw [addressed?, hscope, Option.bind_some]
    constructor
    · intro h
      exact .unbound hstarts (by simp [Tree.isBound, h])
    · rintro (h | ⟨h, hname⟩ | ⟨h, hpath⟩)
      · simp [scope?, h] at hscope
      · cases hstarts with
        | inModule h' hsub => exact absurd hsub (by simp_all)
      · -- a read has one tree to start from
        have hsame := (scope?_eq_some_iff.mpr h).symm.trans hscope
        simp_all [Tree.isBound]
  | none =>
    rw [addressed?, hscope, Option.bind_none]
    refine ⟨fun _ => ?_, fun _ => rfl⟩
    cases hsnapshot : c.snapshot? with
    | none => exact .unpublished hsnapshot
    | some t =>
      cases module? with
      | none => simp [scope?_none, hsnapshot] at hscope
      | some name =>
        refine .unresolved hsnapshot ?_
        intro sub hsub
        simp [scope?_some, hsnapshot, hsub, Node.tree?] at hscope

/-- A path is bound if and only if reads from the root come to a node. -/
theorem isBound_iff_exists_addresses :
    c.isBound path = true ↔ ∃ node, Addresses c path none node := by
  simp only [← addressed?_eq_some_iff, ← Option.isSome_iff_exists, addressed?, scope?_none, isBound]
  cases c.snapshot? <;> rfl

/-! ### Three ways -/

/-- What a read finds before its default is considered. -/
def fetch (c : Configuration) (path : String) (convert : Conversion α) (module? : Option String) :
    Except Error α :=
  match c.scope? module? with
  | some t => t.fetch path convert
  | none => .error (outOfScope path module?)

/-- The ways that a read can go, by the node that it comes to. -/
inductive Fetched (path : String) (convert : Conversion α) : Option Node → Except Error α → Prop
  | value {node : Node} {value : α} (h : convert node = .ok value) :
      Fetched path convert (some node) (.ok value)
  | unfit {node : Node} {reason : FormatError} (h : convert node = .error reason) :
      Fetched path convert (some node) (.error (.wrongFormat path reason))
  | missing (label : String) : Fetched path convert none (.error (.notBound label))

theorem fetch_tree_eq (t : Tree) (path : String) (convert : Conversion α) :
    t.fetch path convert =
      match t.find? (Path.keys path) with
      | some node => (convert node).mapError (.wrongFormat path)
      | none => .error (.notBound path) := by
  rw [Tree.fetch, Tree.lookup_eq_answer]
  cases t.find? (Path.keys path) <;> rfl

theorem fetched_fetch (c : Configuration) (path : String) (convert : Conversion α)
    (module? : Option String) :
    Fetched path convert (c.addressed? path module?) (c.fetch path convert module?) := by
  rw [addressed?, fetch]
  cases c.scope? module? with
  | none => cases module? <;> exact .missing _
  | some t =>
    simp only [Option.bind_some, fetch_tree_eq]
    cases t.find? (Path.keys path) with
    | none => exact .missing path
    | some node =>
      cases hconvert : convert node with
      | ok value =>
        simp only [hconvert]
        exact .value hconvert
      | error reason =>
        simp only [hconvert]
        exact .unfit hconvert

section Fetched

variable {node? : Option Node} {result : Except Error α} (h : Fetched path convert node? result)

include h

theorem Fetched.eq_ok_iff {value : α} :
    result = .ok value ↔ ∃ node, node? = some node ∧ convert node = .ok value := by
  cases h <;> simp_all

theorem Fetched.missing_iff : (∃ label, result = .error (.notBound label)) ↔ node? = none := by
  cases h <;> simp

theorem Fetched.unfit_iff : (∃ label reason, result = .error (.wrongFormat label reason)) ↔
    ∃ node, node? = some node ∧ ∃ reason, convert node = .error reason := by
  cases h <;> simp_all

theorem Fetched.isLookupFailure {error : Error} (herror : result = .error error) :
    error.isLookupFailure = true := by
  cases h <;> cases herror <;> rfl

end Fetched

/-! ### Defaults -/

section Read

variable [Inspect α]

theorem read_of_fetch_ok {value : α} (h : c.fetch path convert module? = .ok value)
    (default : Option α) : c.read path default convert module? = pure (.ok value) := by
  cases hscope : c.scope? module? with
  | none => simp [fetch, hscope] at h
  | some t =>
    simp only [fetch, hscope] at h
    simp only [read, hscope, Tree.read, h]

theorem read_of_fetch_error {error : Error} (h : c.fetch path convert module? = .error error)
    (default : Option α) :
    c.read path default convert module? = fallback path default error := by
  cases hscope : c.scope? module? with
  | none =>
    simp only [fetch, hscope, Except.error.injEq] at h
    simp only [read, hscope, h]
  | some t =>
    simp only [fetch, hscope] at h
    simp only [read, hscope, Tree.read, h]

/-- Without a default a read gives what it finds. -/
theorem value_read_none (c : Configuration) (path : String) (convert : Conversion α)
    (module? : Option String) :
    (c.read path none convert module?).value = c.fetch path convert module? := by
  cases hfetch : c.fetch path convert module? with
  | ok value => rw [read_of_fetch_ok hfetch, Logged.value_pure]
  | error error =>
    rw [read_of_fetch_error hfetch]
    rfl

/-- With a default a read gives what it finds, or else the default. -/
theorem value_read_some (c : Configuration) (path : String) (default : α)
    (convert : Conversion α) (module? : Option String) :
    (c.read path (some default) convert module?).value =
      .ok (match c.fetch path convert module? with
        | .ok value => value
        | .error _ => default) := by
  cases hfetch : c.fetch path convert module? with
  | ok value => rw [read_of_fetch_ok hfetch, Logged.value_pure]
  | error error =>
    rw [read_of_fetch_error hfetch]
    rfl

/-! ### The policy -/

/-- What a read does, as a function of its default. `Gives` says which value it makes of the node
that it comes to, and `Unfit` that it makes none of it. -/
structure FollowsPolicy (c : Configuration) (path : String) (module? : Option String)
    (Gives : Node → α → Prop) (Unfit : Node → Prop)
    (read : Option α → Logged Event (Except Error α)) : Prop where
  /-- With a default it succeeds, with the default if and only if it would fail without. -/
  withDefault : ∀ default, (read (some default)).value =
    .ok (match (read none).value with
      | .ok value => value
      | .error _ => default)
  value_iff : ∀ value, (read none).value = .ok value ↔
    ∃ node, Addresses c path module? node ∧ Gives node value
  missing_iff : (∃ label, (read none).value = .error (.notBound label)) ↔ Misses c path module?
  unfit_iff : (∃ label reason, (read none).value = .error (.wrongFormat label reason)) ↔
    ∃ node, Addresses c path module? node ∧ Unfit node
  /-- There are no other errors. -/
  lookupFailure : ∀ error, (read none).value = .error error → error.isLookupFailure = true
  quiet : ∀ default value, (read none).value = .ok value → (read default).events = []
  warns : ∀ default error, (read none).value = .error error →
    ∃ event, (read (some default)).events = [event] ∧ event.level = .warn
  reports : ∀ error, (read none).value = .error error →
    ∃ event, (read none).events = [event] ∧ event.level = .error

theorem followsPolicy_read (c : Configuration) (path : String) (convert : Conversion α)
    (module? : Option String) :
    FollowsPolicy c path module? (fun node value => convert node = .ok value)
      (fun node => ∃ reason, convert node = .error reason)
      (fun default => c.read path default convert module?) := by
  have hfetched := fetched_fetch c path convert module?
  constructor
  · intro default
    rw [value_read_some, value_read_none]
  · intro value
    simp only [value_read_none, ← addressed?_eq_some_iff]
    exact hfetched.eq_ok_iff
  · simp only [value_read_none, ← addressed?_eq_none_iff]
    exact hfetched.missing_iff
  · simp only [value_read_none, ← addressed?_eq_some_iff]
    exact hfetched.unfit_iff
  · intro error herror
    rw [value_read_none] at herror
    exact hfetched.isLookupFailure herror
  · intro default value hvalue
    rw [value_read_none] at hvalue
    rw [read_of_fetch_ok hvalue, Logged.events_pure]
  · intro default error herror
    rw [value_read_none] at herror
    exact ⟨_, congrArg Logged.events (read_of_fetch_error herror (some default)), rfl⟩
  · intro error herror
    rw [value_read_none] at herror
    exact ⟨_, congrArg Logged.events (read_of_fetch_error herror none), rfl⟩

end Read

/-- Reads with the same meaning follow the same policy. -/
theorem FollowsPolicy.congr {Gives Gives' : Node → α → Prop} {Unfit Unfit' : Node → Prop}
    {read : Option α → Logged Event (Except Error α)}
    (h : FollowsPolicy c path module? Gives Unfit read)
    (hgives : ∀ node value, Gives node value ↔ Gives' node value)
    (hunfit : ∀ node, Unfit node ↔ Unfit' node) :
    FollowsPolicy c path module? Gives' Unfit' read := by
  obtain rfl : Gives = Gives' := funext fun node => funext fun value => propext (hgives node value)
  obtain rfl : Unfit = Unfit' := funext fun node => propext (hunfit node)
  exact h

theorem scalar_eq_ok_iff {coerce : Coercion α} {node : Node} {value : α} :
    Conversion.scalar coerce node = .ok value ↔
      ∃ text, node.text? = some text ∧ coerce text = .ok value := by
  rw [Conversion.scalar]
  cases node.text? <;> simp

theorem scalar_eq_error_iff {coerce : Coercion α} {node : Node} :
    (∃ reason, Conversion.scalar coerce node = .error reason) ↔
      node.text? = none ∨ ∃ text reason, node.text? = some text ∧ coerce text = .error reason := by
  rw [Conversion.scalar]
  cases node.text? <;> simp

theorem bindTo_eq_ok_iff {shape : Shape} {node : Node} {value : Bound} :
    Conversion.bindTo shape node = .ok value ↔ shape.bind node.toJson = .ok value := by
  rw [Conversion.bindTo]
  cases shape.bind node.toJson <;> simp [Except.mapError]

theorem bindTo_eq_error_iff {shape : Shape} {node : Node} :
    (∃ reason, Conversion.bindTo shape node = .error reason) ↔
      ∃ mismatch, shape.bind node.toJson = .error mismatch := by
  rw [Conversion.bindTo]
  cases shape.bind node.toJson <;> simp [Except.mapError]

/-- Reads of nodes, of scalars by any coercion and of sections of any shape follow the policy in
every state, from the root as well as inside a module, and so does a read by any other conversion.
A read of a node is never unfit. -/
theorem reads_follow_policy (c : Configuration) (path : String) (module? : Option String) :
    FollowsPolicy c path module? (fun node value => value = node) (fun _ => False)
      (fun default => c.get path default module?) ∧
    (∀ {α : Type} [Inspect α] (coerce : Coercion α),
      FollowsPolicy c path module?
        (fun node value => ∃ text, node.text? = some text ∧ coerce text = .ok value)
        (fun node => node.text? = none ∨
          ∃ text reason, node.text? = some text ∧ coerce text = .error reason)
        (fun default => c.getAs path default coerce module?)) ∧
    (∀ shape : Shape,
      FollowsPolicy c path module? (fun node value => shape.bind node.toJson = .ok value)
        (fun node => ∃ mismatch, shape.bind node.toJson = .error mismatch)
        (fun default => c.getSection path default shape module?)) ∧
    (∀ {α : Type} [Inspect α] (convert : Conversion α),
      FollowsPolicy c path module? (fun node value => convert node = .ok value)
        (fun node => ∃ reason, convert node = .error reason)
        (fun default => c.read path default convert module?)) := by
  refine ⟨?_, ?_, ?_, ?_⟩
  · refine (followsPolicy_read c path .node module?).congr ?_ ?_
    · intro node value
      rw [Conversion.node, Except.ok.injEq, eq_comm]
    · intro node
      simp [Conversion.node]
  · intro α _ coerce
    exact (followsPolicy_read c path (.scalar coerce) module?).congr
      (fun _ _ => scalar_eq_ok_iff) (fun _ => scalar_eq_error_iff)
  · intro shape
    exact (followsPolicy_read c path (.bindTo shape) module?).congr
      (fun _ _ => bindTo_eq_ok_iff) (fun _ => bindTo_eq_error_iff)
  · intro α _ convert
    exact followsPolicy_read c path convert module?

end ConfigLayers.Configuration
