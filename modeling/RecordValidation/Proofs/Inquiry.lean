import Mathlib
import RecordValidation.Session

/-!
Inquiries: what a survey asks, written down before any of it is asked. No answer
decides what is asked next; answers only decide whether the survey goes on. So
each check has an agenda, a list of inquiries, and to run the check is to put the
inquiries of its agenda one after another, up to the answer that stops it.
-/

namespace RecordValidation

/-- A position in a record under survey. The root is the record itself, and a
labelled place may be anywhere. -/
inductive Place
  | root
  | labelled (label : String)
  | field (outer : Place) (name : String)
  | element (outer : Place) (index : Nat)
  deriving DecidableEq, Repr

namespace Place

/-- The path as labels show it. The root has none. -/
def path? : Place → Option String
  | .root => none
  | .labelled label => some label
  | .field outer name => some (Scope.fieldLabel outer.path? name)
  | .element outer index => some (Scope.elementLabel (outer.path?.getD "") index)

def label (p : Place) : String := p.path?.getD ""

theorem label_of_path? {p : Place} {label : String} (h : p.path? = some label) :
    p.label = label := by
  rw [Place.label, h, Option.getD_some]

theorem path?_field (p : Place) (name : String) :
    (p.field name).path? = some (Scope.fieldLabel p.path? name) := rfl

theorem path?_element {p : Place} {label : String} (h : p.path? = some label) (index : Nat) :
    (p.element index).path? = some (Scope.elementLabel label index) := by
  rw [path?, h, Option.getD_some]

end Place

/-- One thing that a survey asks. A check that comes with the library is only
asked for where it fails, and a refusal is what a survey can not go beyond. -/
inductive Inquiry
  | required (place : Place) (value : Value)
  | builtin (place : Place) (value : Value) (v : Violation)
  | custom (place : Place) (value : Value) (station : Station) (rule : NamedRule)
  | record (place : Place) (tag : TypeTag) (fields : List Value) (model : String)
      (rule : OwnedRule)
  | refusal (place : Place) (f : Fault)

namespace Inquiry

/-- The answer to an inquiry: nothing, a violation, or a fault. -/
def answer : Inquiry → Except Fault (Option Violation)
  | .required place _ => .ok (some (.required place.label))
  | .builtin _ _ v => .ok (some v)
  | .custom place value _ r =>
    match r.rule place.label value with
    | .ok none => .ok none
    | .ok (some message) => .ok (some ⟨place.label, message, r.name⟩)
    | .error source => .error (.rule place.label r.name source)
  | .record place tag fields model r =>
    match r.apply tag fields with
    | .ok none => .ok none
    | .ok (some message) => .ok (some ⟨place.path?.getD model, message, Violation.recordCode⟩)
    | .error source => .error (.recordRule model source)
  | .refusal _ f => .error f

def ofRules (place : Place) (value : Value) (station : Station) (rules : List NamedRule) :
    List Inquiry :=
  rules.map (.custom place value station)

def ofSegment {β α : Type} (station : Station) (seg : Segment β α) (g : Gauge β α)
    (place : Place) (value : Value) : List Inquiry :=
  (seg.failures g place.label).map (.builtin place value) ++
    ofRules place value station seg.custom

def ofAbsence (required : Bool) (place : Place) (value : Value) : List Inquiry :=
  if required then [.required place value] else []

def ofMismatch (place : Place) (expected : Kind) (found : Value) : List Inquiry :=
  [.refusal place (.mismatch place.label expected found.kind)]

def ofRecordRules (blueprint : Blueprint) (place : Place) (tag : TypeTag)
    (fields : List Value) : List Inquiry :=
  blueprint.recordRules.map (.record place tag fields blueprint.name)

end Inquiry

/-- What a survey needs to know of its scope, but for how many violations it is
to collect. -/
structure Terrain where
  blueprints : Roster TypeTag Blueprint
  limit : Nat
  now : Instant

namespace Terrain

open Inquiry

/-- The inquiries into a present value by the rules of a scalar. -/
def scalar (t : Terrain) (place : Place) : ScalarConstraint → Value → List Inquiry
  | .text seg, .text x => ofSegment (.scalar .text) seg (.text x) place (.text x)
  | .integer seg, .integer n => ofSegment (.scalar .integer) seg (.whole n) place (.integer n)
  | .float seg, .float x => ofSegment (.scalar .float) seg (.float x) place (.float x)
  | .time seg, .time i => ofSegment (.scalar .time) seg (.time (i.ageAt t.now)) place (.time i)
  | target, value => ofMismatch place target.kind value

def ifPresent (t : Terrain) (place : Place) (target : ScalarConstraint) (nullable : Bool)
    (value : Value) : List Inquiry :=
  match value.present? nullable with
  | none => ofAbsence target.required place value
  | some present => t.scalar place target present

def pointer (t : Terrain) (place : Place) (head : Segment Empty Empty)
    (target : ScalarConstraint) : Value → List Inquiry
  | .null => ofAbsence head.required place .null
  | .just pointee =>
    ofRules place (.just pointee) .pointer head.custom ++ t.ifPresent place target false pointee
  | value => ofRules place value .pointer head.custom ++ t.ifPresent place target false value

/-- The inquiries into a value that holds no others. -/
def plain (t : Terrain) (nullable : Bool) (place : Place) (value : Value) :
    Constraint → List Inquiry
  | .unchecked => []
  | .scalar target => t.ifPresent place target nullable value
  | .pointer head target => t.pointer place head target value
  | .sequence head _ =>
    match value.present? nullable with
    | none => ofAbsence head.required place value
    | some value => ofMismatch place .sequence value
  | .record head =>
    match value.present? nullable with
    | none => ofAbsence head.required place value
    | some value => ofMismatch place .record value

/-- The way into a record by the blueprint of its type, if there is one and the
survey is not yet too deep. -/
def entry (t : Terrain) (place : Place) (tag : TypeTag) (level : Nat)
    (body : Blueprint → List Inquiry) : List Inquiry :=
  match t.blueprints.find? tag with
  | none => [.refusal place (.notRegistered tag.name)]
  | some blueprint =>
    if t.limit ≤ level then [.refusal place (.tooDeep (place.path?.getD tag.name) t.limit)]
    else body blueprint

mutual

/-- All inquiries into a value at a place, for a survey that is at a level. -/
def agenda (t : Terrain) : Constraint → Bool → Place → Nat → Value → List Inquiry
  | c, _, place, level, .just inner =>
    match c with
    | .pointer head target => t.pointer place head target (.just inner)
    | .unchecked => []
    | c => t.agenda c true place level inner
  | c, nullable, place, level, .sequence items =>
    match c with
    | .sequence head element =>
      ofSegment .sequence head (.sequence items.length) place (.sequence items) ++
        t.elements element place 0 level items
    | c => t.plain nullable place (.sequence items) c
  | c, nullable, place, level, .record tag fields =>
    match c with
    | .record head =>
      ofRules place (.record tag fields) .record head.custom ++
        t.entry place tag level fun blueprint =>
          t.fields blueprint place tag (level + 1) fields blueprint.fields ++
            ofRecordRules blueprint place tag fields
    | c => t.plain nullable place (.record tag fields) c
  | c, nullable, place, _, value => t.plain nullable place value c

/-- The inquiries into elements, from an index on. -/
def elements (t : Terrain) : Constraint → Place → Nat → Nat → List Value → List Inquiry
  | _, _, _, _, [] => []
  | c, place, index, level, item :: rest =>
    t.agenda c false (place.element index) level item ++
      t.elements c place (index + 1) level rest

/-- The inquiries into the fields of a record. -/
def fields (t : Terrain) : Blueprint → Place → TypeTag → Nat → List Value → List FieldPlan →
    List Inquiry
  | _, _, _, _, [], _ => []
  | _, _, _, _, _ :: _, [] => []
  | blueprint, place, tag, level, value :: values, plan :: plans =>
    let place' := place.field plan.name
    (if plan.constraint.isUnchecked then []
      else if tag ≠ plan.owner then [.refusal place' (.foreignRecord place'.label blueprint.name)]
      else t.agenda plan.constraint false place' level value) ++
      t.fields blueprint place tag level values plans

end

/-- All inquiries into a record that stands in no other. -/
def root (t : Terrain) (tag : TypeTag) (level : Nat) (fields : List Value) : List Inquiry :=
  t.entry .root tag level fun blueprint =>
    t.fields blueprint .root tag (level + 1) fields blueprint.fields ++
      ofRecordRules blueprint .root tag fields

end Terrain

end RecordValidation
