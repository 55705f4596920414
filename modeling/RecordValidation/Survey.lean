import RecordValidation.Blueprint

/-!
Surveys: how records are checked. A survey goes through the fields of a record
and into the records they hold. It collects violations and keeps count of how
deep it is; it stops where it has all it was asked for, or at a fault.
-/

namespace RecordValidation

/-- How many violations a survey is to collect. -/
inductive Extent
  | first
  | all
  deriving DecidableEq, Repr

/-- Why a survey ended before all was seen. -/
inductive Stop
  | full
  | failed (f : Fault)
  deriving DecidableEq, Repr

/-- What a survey has come to: how deep it is, and what it has found. -/
structure Survey where
  level : Nat := 0
  found : List Violation := []

/-- What stays the same throughout a survey. -/
structure Scope where
  blueprints : Roster TypeTag Blueprint
  extent : Extent
  limit : Nat
  now : Instant

/-- A step of a survey. Where it stops, what has been found so far is kept. -/
abbrev SurveyM := EStateM Stop Survey

namespace Scope

def fail (f : Fault) : SurveyM Unit := throw (.failed f)

/-- Notes a violation. A survey that is after the first one only ends with it. -/
def report (s : Scope) (v : Violation) : SurveyM Unit := do
  modify fun survey => { survey with found := survey.found ++ [v] }
  match s.extent with
  | .first => throw .full
  | .all => pure ()

def reportAll (s : Scope) : List Violation → SurveyM Unit
  | [] => pure ()
  | v :: rest => do
    s.report v
    s.reportAll rest

/-- Applies custom rules in turn. -/
def applyCustom (s : Scope) (label : String) (value : Value) : List NamedRule → SurveyM Unit
  | [] => pure ()
  | r :: rest => do
    match r.rule label value with
    | .ok none => pure ()
    | .ok (some message) => s.report ⟨label, message, r.name⟩
    | .error source => fail (.rule label r.name source)
    s.applyCustom label value rest

/-- Reports that a value is missing where one is required. -/
def reportAbsent (s : Scope) (required : Bool) (label : String) : SurveyM Unit :=
  if required then s.report (.required label) else pure ()

/-- Checks a present value against a segment: the built-in checks, then the
custom rules. -/
def checkSegment {β α : Type} (s : Scope) (seg : Segment β α) (g : Gauge β α) (label : String)
    (value : Value) : SurveyM Unit := do
  s.reportAll (seg.failures g label)
  s.applyCustom label value seg.custom

def mismatch (label : String) (expected : Kind) (found : Value) : SurveyM Unit :=
  fail (.mismatch label expected found.kind)

/-- Checks a present value against the rules of a scalar. -/
def checkScalar (s : Scope) (label : String) : ScalarConstraint → Value → SurveyM Unit
  | .text seg, .text t => s.checkSegment seg (.text t) label (.text t)
  | .integer seg, .integer n => s.checkSegment seg (.whole n) label (.integer n)
  | .float seg, .float x => s.checkSegment seg (.float x) label (.float x)
  | .time seg, .time t => s.checkSegment seg (.time (t.ageAt s.now)) label (.time t)
  | target, value => mismatch label target.kind value

def checkIfPresent (s : Scope) (label : String) (target : ScalarConstraint) :
    Option Value → SurveyM Unit
  | none => s.reportAbsent target.required label
  | some value => s.checkScalar label target value

/-- Checks a pointer. What it points to is checked as a value that is not
optional, so its zero is absent. -/
def checkPointer (s : Scope) (label : String) (head : Segment Empty Empty)
    (target : ScalarConstraint) : Value → SurveyM Unit
  | .null => s.reportAbsent head.required label
  | .just pointee => do
    s.applyCustom label (.just pointee) head.custom
    s.checkIfPresent label target (pointee.present? false)
  | value => do
    s.applyCustom label value head.custom
    s.checkIfPresent label target (value.present? false)

/-- Checks a value that holds no others. In a nullable place its zero is present. -/
def checkPlain (s : Scope) (nullable : Bool) (label : String) (value : Value) :
    Constraint → SurveyM Unit
  | .unchecked => pure ()
  | .scalar target => s.checkIfPresent label target (value.present? nullable)
  | .pointer head target => s.checkPointer label head target value
  | .sequence head _ =>
    match value.present? nullable with
    | none => s.reportAbsent head.required label
    | some value => mismatch label .sequence value
  | .record head =>
    match value.present? nullable with
    | none => s.reportAbsent head.required label
    | some value => mismatch label .record value

/-- Goes one level deeper, and returns to the level in any case. -/
def nested (body : SurveyM Unit) : SurveyM Unit := fun survey =>
  match body { survey with level := survey.level + 1 } with
  | .ok a after => .ok a { after with level := after.level - 1 }
  | .error stop after => .error stop { after with level := after.level - 1 }

/-- Enters a record by the blueprint of its own type. -/
def enter (s : Scope) (path : Option String) (tag : TypeTag) (body : Blueprint → SurveyM Unit) :
    SurveyM Unit := do
  match s.blueprints.find? tag with
  | none => fail (.notRegistered tag.name)
  | some blueprint =>
    if s.limit ≤ (← get).level then fail (.tooDeep (path.getD tag.name) s.limit)
    else nested (body blueprint)

/-- The label of a field within a record. -/
def fieldLabel (path : Option String) (name : String) : String :=
  match path with
  | some path => path ++ "." ++ name
  | none => name

def elementLabel (label : String) (index : Nat) : String :=
  label ++ "[" ++ toString index ++ "]"

/-- Applies the rules for whole records in turn. -/
def applyRecordRules (s : Scope) (blueprint : Blueprint) (path : Option String) (tag : TypeTag)
    (fields : List Value) : List OwnedRule → SurveyM Unit
  | [] => pure ()
  | r :: rest => do
    match r.apply tag fields with
    | .ok none => pure ()
    | .ok (some message) =>
      s.report ⟨path.getD blueprint.name, message, Violation.recordCode⟩
    | .error source => fail (.recordRule blueprint.name source)
    s.applyRecordRules blueprint path tag fields rest

mutual

/-- Checks a value against a constraint. Optional layers are taken off one by
one, and make the place nullable. -/
def check (s : Scope) : Constraint → Bool → String → Value → SurveyM Unit
  | c, _, label, .just inner =>
    match c with
    | .pointer head target => s.checkPointer label head target (.just inner)
    | .unchecked => pure ()
    | c => s.check c true label inner
  | c, nullable, label, .sequence items =>
    match c with
    | .sequence head element => do
      s.checkSegment head (.sequence items.length) label (.sequence items)
      s.checkElements element label 0 items
    | c => s.checkPlain nullable label (.sequence items) c
  | c, nullable, label, .record tag fields =>
    match c with
    | .record head => do
      s.applyCustom label (.record tag fields) head.custom
      s.enter (some label) tag fun blueprint => do
        s.checkFields blueprint (some label) tag fields blueprint.fields
        s.applyRecordRules blueprint (some label) tag fields blueprint.recordRules
    | c => s.checkPlain nullable label (.record tag fields) c
  | c, nullable, label, value => s.checkPlain nullable label value c

/-- Checks elements in order, from an index on. -/
def checkElements (s : Scope) : Constraint → String → Nat → List Value → SurveyM Unit
  | _, _, _, [] => pure ()
  | c, label, index, item :: rest => do
    s.check c false (elementLabel label index) item
    s.checkElements c label (index + 1) rest

/-- Checks the fields of a record in order. Each plan belongs to the field at its
place. -/
def checkFields (s : Scope) : Blueprint → Option String → TypeTag → List Value →
    List FieldPlan → SurveyM Unit
  | _, _, _, [], _ => pure ()
  | _, _, _, _ :: _, [] => pure ()
  | blueprint, path, tag, value :: values, plan :: plans => do
    if plan.constraint.isUnchecked then pure ()
    else if tag ≠ plan.owner then fail (.foreignRecord (fieldLabel path plan.name) blueprint.name)
    else s.check plan.constraint false (fieldLabel path plan.name) value
    s.checkFields blueprint path tag values plans

end

/-- Checks a record that stands in no other. -/
def checkRoot (s : Scope) (tag : TypeTag) (fields : List Value) : SurveyM Unit :=
  s.enter none tag fun blueprint => do
    s.checkFields blueprint none tag fields blueprint.fields
    s.applyRecordRules blueprint none tag fields blueprint.recordRules

end Scope

/-- The outcome of a whole survey. A fault counts for more than what was found. -/
def Survey.outcome (body : SurveyM Unit) : Except Fault Violations :=
  match body {} with
  | .ok _ survey => .ok ⟨survey.found⟩
  | .error .full survey => .ok ⟨survey.found⟩
  | .error (.failed f) _ => .error f

end RecordValidation
