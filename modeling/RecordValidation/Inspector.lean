import RecordValidation.Survey

/-!
The inspector: record types are registered with it, rules are added to it, and
records are checked by it. Setting it up gives a new inspector or a fault, and
checking leaves it as it is.
-/

namespace RecordValidation

/-- Serial numbers come first, so names decide only between equal ones. -/
instance : LT TypeTag where
  lt a b := a.serial < b.serial ∨ (a.serial = b.serial ∧ a.name < b.name)

instance : DecidableLT TypeTag := fun a b =>
  inferInstanceAs (Decidable (a.serial < b.serial ∨ (a.serial = b.serial ∧ a.name < b.name)))

structure Inspector where
  settings : Settings := {}
  blueprints : Roster TypeTag Blueprint := .empty
  rules : RuleBook := .empty

/-- A record: its type and the values of its fields in order. -/
structure Record where
  tag : TypeTag
  fields : List Value

namespace Inspector

def withSettings (settings : Settings) : Inspector := { settings }

/-- What the inspector knows when a type is registered. -/
def lexicon (i : Inspector) : Lexicon := ⟨i.rules, i.settings⟩

/-- Registers a record type. Its annotations are compiled with the rules that are
known by now; the types of nested records may be registered later. -/
def register (i : Inspector) (t : RecordType) : Except Fault Inspector := do
  if i.blueprints.contains t.tag then throw (.alreadyRegistered t.tag.name)
  let blueprint ← Blueprint.ofType i.lexicon t
  return { i with blueprints := i.blueprints.insert t.tag blueprint }

/-- Registers types in turn up to the first that can not be registered. The
types before it stay registered. -/
def registerAll (i : Inspector) : List RecordType → Inspector × Option Fault
  | [] => (i, none)
  | t :: rest =>
    match i.register t with
    | .ok i => i.registerAll rest
    | .error f => (i, some f)

/-- Adds a rule for annotations to call. Types that are registered already keep
the rules that they have. -/
def addRule (i : Inspector) (name : String) (rule : Rule) : Except Fault Inspector := do
  return { i with rules := ← i.rules.insert name rule }

/-- Adds a rule for whole records of a type that is registered. -/
def addRecordRule (i : Inspector) (tag : TypeTag) (rule : RecordRule) :
    Except Fault Inspector :=
  match i.blueprints.find? tag with
  | none => .error (.notRegistered tag.name)
  | some blueprint =>
    .ok { i with blueprints := i.blueprints.insert tag (blueprint.addRecordRule ⟨tag, rule⟩) }

def isRegistered (i : Inspector) (tag : TypeTag) : Bool := i.blueprints.contains tag

/-- The names of the declared fields, in order. -/
def fieldNames? (i : Inspector) (tag : TypeTag) : Option (List String) :=
  (i.blueprints.find? tag).map Blueprint.fieldNames

def ruleNames (i : Inspector) : List String := i.rules.names

def scope (i : Inspector) (extent : Extent) (now : Instant) : Scope :=
  ⟨i.blueprints, extent, i.settings.maxDepth, now⟩

/-- Checks a record, to the first violation or to the last. -/
def inspect (i : Inspector) (extent : Extent) (now : Instant) (r : Record) :
    Except Fault Violations :=
  Survey.outcome ((i.scope extent now).checkRoot r.tag r.fields)

/-- All violations of a record. -/
def violations (i : Inspector) (now : Instant) (r : Record) : Except Fault Violations :=
  i.inspect .all now r

/-- The first violation of a record. What would come after it is not looked at,
so there may be an answer where a full check ends with a fault. -/
def violation? (i : Inspector) (now : Instant) (r : Record) : Except Fault (Option Violation) :=
  (i.inspect .first now r).map Violations.first?

/-- The record that a value is, once optional layers are taken off. -/
def recordOf : Value → Except Fault Record
  | .record tag fields => .ok ⟨tag, fields⟩
  | .just inner => recordOf inner
  | .null => .error (.notRecord "none")
  | value => .error (.notRecord value.kind.name)

/-- All violations of a value that should be a record. -/
def violationsOf (i : Inspector) (now : Instant) (value : Value) : Except Fault Violations := do
  i.violations now (← recordOf value)

/-- The first violation of a value that should be a record. -/
def violationOf? (i : Inspector) (now : Instant) (value : Value) :
    Except Fault (Option Violation) := do
  i.violation? now (← recordOf value)

/-- The text of an inspector under inspection. Types are shown by their blueprints
only. -/
def inspected (i : Inspector) : String :=
  let policy :=
    match i.settings.unknownRules with
    | .reject => "Reject"
    | .ignore => "Ignore"
  let models := i.blueprints.entries.map fun entry => "TypeId(_): " ++ entry.2.inspected
  "Validator \x7b config: ValidatorConfig \x7b unknown_rules: " ++ policy ++ ", max_depth: " ++
    toString i.settings.maxDepth ++ " \x7d, registry: Registry \x7b models: \x7b" ++
    ", ".intercalate models ++ "\x7d \x7d, rules: " ++ i.rules.inspected ++ " \x7d"

end Inspector

end RecordValidation
