import RecordValidation.Proofs.Grammar

/-!
Enrolments: what an inspector was told about the types that are registered with
it. The inspector itself keeps blueprints, which have the annotations compiled. In
every inspector that can be built they are the blueprints of its enrolments, and
annotations that could not be compiled are not among these.
-/

namespace RecordValidation

open Annotation

/-- A declaration that registration accepts. -/
def FieldDecl.Accepted (lex : Lexicon) : FieldDecl → Prop
  | .skipped _ => True
  | .checked _ type rules => rules = "" ∨ WellFormed lex type.shape (tokens rules)

/-- The plan of a declared field as its annotation is read. -/
def FieldPlan.ofDecl (lex : Lexicon) (owner : TypeTag) : FieldDecl → FieldPlan
  | .skipped name => ⟨owner, name, .unchecked⟩
  | .checked name type rules => ⟨owner, name, .ofText lex type.shape rules⟩

namespace Blueprint

variable {lex : Lexicon} {owner : TypeTag}

theorem compileField_eq_ok_iff {decl : FieldDecl} {plan : FieldPlan} :
    compileField lex owner decl = .ok plan ↔
      decl.Accepted lex ∧ plan = .ofDecl lex owner decl := by
  cases decl with
  | skipped name =>
    exact ⟨fun h => ⟨trivial, (Except.ok.inj h).symm⟩, fun h => by rw [h.2]; rfl⟩
  | checked name type rules =>
    rw [compileField, FieldDecl.Accepted, FieldPlan.ofDecl]
    cases hc : Constraint.ofAnnotation lex type.shape rules with
    | ok c =>
      obtain ⟨hform, rfl⟩ := Constraint.ofAnnotation_eq_ok_iff.mp hc
      exact ⟨fun h => ⟨hform, (Except.ok.inj h).symm⟩, fun h => by rw [h.2]⟩
    | error bad =>
      constructor
      · intro h
        cases h
      · rintro ⟨hform, -⟩
        have hok := Constraint.ofAnnotation_eq_ok_iff.mpr ⟨hform, rfl⟩
        rw [hc] at hok
        cases hok

theorem compileFields_eq_ok_iff {decls : List FieldDecl} {plans : List FieldPlan} :
    compileFields lex owner decls = .ok plans ↔
      (∀ decl ∈ decls, decl.Accepted lex) ∧ plans = decls.map (.ofDecl lex owner) := by
  induction decls generalizing plans with
  | nil => exact ⟨fun h => ⟨nofun, (Except.ok.inj h).symm⟩, fun h => by rw [h.2]; rfl⟩
  | cons decl rest ih =>
    rw [compileFields, bind_eq_ok_iff, List.forall_mem_cons, List.map_cons]
    constructor
    · rintro ⟨plan, hplan, h⟩
      obtain ⟨plans, hplans, h⟩ := bind_eq_ok_iff.mp h
      obtain ⟨haccepted, rfl⟩ := compileField_eq_ok_iff.mp hplan
      obtain ⟨hrest, rfl⟩ := ih.mp hplans
      exact ⟨⟨haccepted, hrest⟩, (Except.ok.inj h).symm⟩
    · rintro ⟨⟨haccepted, hrest⟩, rfl⟩
      refine ⟨_, compileField_eq_ok_iff.mpr ⟨haccepted, rfl⟩, ?_⟩
      exact bind_eq_ok_iff.mpr ⟨_, ih.mpr ⟨hrest, rfl⟩, rfl⟩

end Blueprint

/-- A registered type, what was known when it was registered, and the rules for
whole records that it was given since then. -/
structure Enrolment where
  type : RecordType
  lexicon : Lexicon
  recordRules : List RecordRule

/-- The blueprint of an enrolment. -/
def Enrolment.blueprint (e : Enrolment) : Blueprint where
  name := e.type.tag.name
  fields := e.type.fields.map (.ofDecl e.lexicon e.type.tag)
  recordRules := e.recordRules.map (⟨e.type.tag, ·⟩)

theorem Enrolment.fieldNames_blueprint (e : Enrolment) :
    e.blueprint.fieldNames = e.type.fields.map FieldDecl.name := by
  have hname : (fun plan : FieldPlan => plan.name) ∘ .ofDecl e.lexicon e.type.tag =
      FieldDecl.name := by
    funext decl
    cases decl <;> rfl
  rw [Blueprint.fieldNames, blueprint, List.map_map, hname]

abbrev Enrolments := Roster TypeTag Enrolment

/-- Enrolments that stand under the tags of their types, with annotations that
registration accepts. -/
structure Enrolments.Valid (es : Enrolments) : Prop where
  tag_eq : ∀ {tag e}, es.find? tag = some e → e.type.tag = tag
  accepted : ∀ {tag e}, es.find? tag = some e → ∀ decl ∈ e.type.fields, decl.Accepted e.lexicon

theorem Enrolments.Valid.insert {es : Enrolments} (h : es.Valid) {tag : TypeTag} {e : Enrolment}
    (htag : e.type.tag = tag) (haccepted : ∀ decl ∈ e.type.fields, decl.Accepted e.lexicon) :
    Enrolments.Valid (Roster.insert es tag e) := by
  constructor
  · intro tag' e' he'
    rw [Roster.find?_insert] at he'
    split at he'
    · next heq =>
      cases he'
      rw [htag, heq]
    · exact h.tag_eq he'
  · intro tag' e' he'
    rw [Roster.find?_insert] at he'
    split at he'
    · cases he'
      exact haccepted
    · exact h.accepted he'

namespace Inspector

theorem register_eq_ok_iff {i i' : Inspector} {t : RecordType} :
    i.register t = .ok i' ↔
      i.isRegistered t.tag = false ∧ (∀ decl ∈ t.fields, decl.Accepted i.lexicon) ∧
        i' = { i with
          blueprints := i.blueprints.insert t.tag (Enrolment.blueprint ⟨t, i.lexicon, []⟩) } := by
  unfold register isRegistered Blueprint.ofType
  cases i.blueprints.contains t.tag with
  | true => exact ⟨nofun, nofun⟩
  | false =>
    constructor
    · intro h
      obtain ⟨blueprint, hblueprint, h⟩ := bind_eq_ok_iff.mp h
      obtain ⟨plans, hplans, hok⟩ := bind_eq_ok_iff.mp hblueprint
      obtain ⟨haccepted, rfl⟩ := Blueprint.compileFields_eq_ok_iff.mp hplans
      cases hok
      exact ⟨rfl, haccepted, (Except.ok.inj h).symm⟩
    · rintro ⟨-, haccepted, rfl⟩
      refine bind_eq_ok_iff.mpr ⟨_, ?_, rfl⟩
      exact bind_eq_ok_iff.mpr
        ⟨_, Blueprint.compileFields_eq_ok_iff.mpr ⟨haccepted, rfl⟩, rfl⟩

theorem addRule_eq_ok {i i' : Inspector} {name : String} {rule : Rule}
    (h : i.addRule name rule = .ok i') :
    i'.settings = i.settings ∧ i'.blueprints = i.blueprints := by
  obtain ⟨rules, -, h⟩ := bind_eq_ok_iff.mp h
  cases h
  exact ⟨rfl, rfl⟩

theorem addRecordRule_eq_ok_iff {i i' : Inspector} {tag : TypeTag} {rule : RecordRule} :
    i.addRecordRule tag rule = .ok i' ↔
      ∃ blueprint, i.blueprints.find? tag = some blueprint ∧
        i' = { i with
          blueprints := i.blueprints.insert tag (blueprint.addRecordRule ⟨tag, rule⟩) } := by
  unfold addRecordRule
  cases i.blueprints.find? tag with
  | none => exact ⟨nofun, nofun⟩
  | some blueprint =>
    constructor
    · exact fun h => ⟨blueprint, rfl, (Except.ok.inj h).symm⟩
    · rintro ⟨_, h, rfl⟩
      cases h
      rfl

/-- The inspectors that can be built, each with the enrolments that it was built
from. -/
inductive Built : Inspector → Enrolments → Prop
  | new (settings : Settings) : Built (.withSettings settings) .empty
  | register {i i' : Inspector} {es : Enrolments} (t : RecordType) (h : Built i es)
      (hregister : i.register t = .ok i') : Built i' (es.insert t.tag ⟨t, i.lexicon, []⟩)
  | addRule {i i' : Inspector} {es : Enrolments} (name : String) (rule : Rule)
      (h : Built i es) (hadd : i.addRule name rule = .ok i') : Built i' es
  | addRecordRule {i i' : Inspector} {es : Enrolments} {e : Enrolment} (tag : TypeTag)
      (rule : RecordRule) (h : Built i es) (hadd : i.addRecordRule tag rule = .ok i')
      (he : es.find? tag = some e) :
      Built i' (es.insert tag { e with recordRules := e.recordRules ++ [rule] })

namespace Built

variable {i : Inspector} {es : Enrolments}

theorem valid (h : Built i es) : es.Valid := by
  induction h with
  | new settings => exact ⟨nofun, nofun⟩
  | register t h hregister ih =>
    obtain ⟨-, haccepted, -⟩ := register_eq_ok_iff.mp hregister
    exact ih.insert rfl haccepted
  | addRule name rule h hadd ih => exact ih
  | @addRecordRule i i' es e tag rule h hadd he ih =>
    have htag : e.type.tag = tag := ih.tag_eq he
    have haccepted : ∀ decl ∈ e.type.fields, decl.Accepted e.lexicon := ih.accepted he
    exact ih.insert htag haccepted

/-- What an inspector has under a tag is the blueprint of what was enrolled under it. -/
theorem find?_blueprints (h : Built i es) (tag : TypeTag) :
    i.blueprints.find? tag = (es.find? tag).map Enrolment.blueprint := by
  induction h generalizing tag with
  | new settings => rfl
  | register t h hregister ih =>
    obtain ⟨-, -, rfl⟩ := register_eq_ok_iff.mp hregister
    rw [Roster.find?_insert, Roster.find?_insert, ih]
    split <;> rfl
  | addRule name rule h hadd ih => rw [(addRule_eq_ok hadd).2, ih]
  | @addRecordRule i i' es e tag' rule h hadd he ih =>
    obtain ⟨blueprint, hblueprint, rfl⟩ := addRecordRule_eq_ok_iff.mp hadd
    have htag' : e.type.tag = tag' := h.valid.tag_eq he
    have ihtag' : i.blueprints.find? tag' = (es.find? tag').map Enrolment.blueprint := ih tag'
    rw [hblueprint, he] at ihtag'
    cases ihtag'
    rw [Roster.find?_insert, Roster.find?_insert, ih]
    split
    · simp [Enrolment.blueprint, Blueprint.addRecordRule, htag']
    · rfl

theorem exists_addRecordRule {i' : Inspector} (h : Built i es) {tag : TypeTag}
    {rule : RecordRule} (hadd : i.addRecordRule tag rule = .ok i') : ∃ es', Built i' es' := by
  obtain ⟨blueprint, hblueprint, -⟩ := addRecordRule_eq_ok_iff.mp hadd
  rw [h.find?_blueprints tag] at hblueprint
  obtain ⟨e, he, -⟩ := Option.map_eq_some_iff.mp hblueprint
  exact ⟨_, .addRecordRule tag rule h hadd he⟩

theorem exists_registerAll (h : Built i es) (ts : List RecordType) :
    ∃ es', Built (i.registerAll ts).1 es' := by
  induction ts generalizing i es with
  | nil => exact ⟨es, h⟩
  | cons t rest ih =>
    rw [registerAll]
    cases hregister : i.register t with
    | ok i' => exact ih (.register t h hregister)
    | error f => exact ⟨es, h⟩

theorem exists_attempt (h : Built i es) {answer : Answer} {x : Except Fault Inspector}
    (hx : ∀ i', x = .ok i' → ∃ es', Built i' es') :
    ∃ es', Built (i.attempt answer x).1 es' := by
  cases x with
  | ok i' => exact hx i' rfl
  | error f => exact ⟨es, h⟩

/-- Whatever a step does, the inspector after it is one that can be built. -/
theorem exists_step (h : Built i es) (now : Instant) (s : Step) :
    ∃ es', Built (i.step now s).1 es' := by
  cases s with
  | register t => exact h.exists_attempt fun i' hi' => ⟨_, .register t h hi'⟩
  | registerAll ts => exact h.exists_registerAll ts
  | addRule name rule => exact h.exists_attempt fun i' hi' => ⟨_, .addRule name rule h hi'⟩
  | addRecordRule tag rule => exact h.exists_attempt fun i' hi' => h.exists_addRecordRule hi'
  | _ => exact ⟨es, h⟩

/-- Every session leads from an inspector that can be built to such inspectors. -/
theorem exists_run (h : Built i es) (now : Instant) (steps : List Step) :
    ∃ es', Built (i.run now steps).1 es' := by
  induction steps generalizing i es with
  | nil => exact ⟨es, h⟩
  | cons s rest ih =>
    obtain ⟨es', hstep⟩ := h.exists_step now s
    exact ih hstep

end Built

end Inspector

namespace Enrolments

mutual

/-- Whether a value agrees with a shape, and the fields of each enrolled record in it
with their declared types. Fields that are skipped can hold anything. -/
def fits (es : Enrolments) : Shape → Value → Bool
  | shape, .just inner =>
    match shape with
    | .optional shape => es.fits shape inner
    | _ => false
  | shape, .null =>
    match shape with
    | .optional _ => true
    | _ => false
  | shape, .sequence items =>
    match shape with
    | .sequence element => es.allFit element items
    | _ => false
  | shape, .record tag fields =>
    match shape with
    | .record tag' =>
      tag == tag' &&
        match es.find? tag with
        | some e => es.fieldsFit fields e.type.fields
        | none => true
    | _ => false
  | shape, value =>
    match shape with
    | .scalar s => value.kind == s.kind
    | .inert => value.kind == .inert
    | _ => false

def allFit (es : Enrolments) : Shape → List Value → Bool
  | _, [] => true
  | shape, item :: rest => es.fits shape item && es.allFit shape rest

def fieldsFit (es : Enrolments) : List Value → List FieldDecl → Bool
  | [], [] => true
  | value :: values, decl :: decls =>
    (match decl with
      | .checked _ type _ => es.fits type.shape value
      | .skipped _ => true) &&
      es.fieldsFit values decls
  | _, _ => false

end

end Enrolments

end RecordValidation
