import RecordValidation.Proofs.Relabelling

/-!
Itineraries: what happens in a survey from one moment to the next, with the records that it
enters and leaves. They are written down without regard to how deep a survey may go. A
survey performs its itinerary up to where it stops, and then returns to the level that it
came from.
-/

namespace RecordValidation

/-- What happens in a survey. What is left is the record that was entered last. -/
inductive Event
  | ask (q : Inquiry)
  | enter (place : Place) (tag : TypeTag)
  | leave

namespace Terrain

open Inquiry

/-- The events of a record, if its type is registered. -/
def visit (t : Terrain) (place : Place) (tag : TypeTag) (body : Blueprint → List Event) :
    List Event :=
  match t.blueprints.find? tag with
  | none => [.ask (.refusal place (.notRegistered tag.name))]
  | some blueprint => .enter place tag :: (body blueprint ++ [.leave])

mutual

/-- All that happens at a value. -/
def itinerary (t : Terrain) : Constraint → Bool → Place → Value → List Event
  | c, _, place, .just inner =>
    match c with
    | .pointer head target => (t.pointer place head target (.just inner)).map .ask
    | .unchecked => []
    | c => t.itinerary c true place inner
  | c, nullable, place, .sequence items =>
    match c with
    | .sequence head element =>
      (ofSegment .sequence head (.sequence items.length) place (.sequence items)).map .ask ++
        t.elementItinerary element place 0 items
    | c => (t.plain nullable place (.sequence items) c).map .ask
  | c, nullable, place, .record tag fields =>
    match c with
    | .record head =>
      (ofRules place (.record tag fields) .record head.custom).map .ask ++
        t.visit place tag fun blueprint =>
          t.fieldItinerary blueprint place tag fields blueprint.fields ++
            (ofRecordRules blueprint place tag fields).map .ask
    | c => (t.plain nullable place (.record tag fields) c).map .ask
  | c, nullable, place, value => (t.plain nullable place value c).map .ask

/-- All that happens at elements, from an index on. -/
def elementItinerary (t : Terrain) : Constraint → Place → Nat → List Value → List Event
  | _, _, _, [] => []
  | c, place, index, item :: rest =>
    t.itinerary c false (place.element index) item ++
      t.elementItinerary c place (index + 1) rest

/-- All that happens at the fields of a record. -/
def fieldItinerary (t : Terrain) : Blueprint → Place → TypeTag → List Value →
    List FieldPlan → List Event
  | _, _, _, [], _ => []
  | _, _, _, _ :: _, [] => []
  | blueprint, place, tag, value :: values, plan :: plans =>
    let place' := place.field plan.name
    (if plan.constraint.isUnchecked then []
      else if tag ≠ plan.owner then
        [.ask (.refusal place' (.foreignRecord place'.label blueprint.name))]
      else t.itinerary plan.constraint false place' value) ++
      t.fieldItinerary blueprint place tag values plans

end

/-- All that happens in a survey of a record that stands in no other. -/
def rootItinerary (t : Terrain) (tag : TypeTag) (fields : List Value) : List Event :=
  t.visit .root tag fun blueprint =>
    t.fieldItinerary blueprint .root tag fields blueprint.fields ++
      (ofRecordRules blueprint .root tag fields).map .ask

/-- The scope of a survey on a terrain. How deep it may go does not depend on the terrain. -/
def scope (t : Terrain) (extent : Extent) (limit : Nat) : Scope :=
  ⟨t.blueprints, extent, limit, t.now⟩

end Terrain

/-- The end of a survey once it has returned to a level. -/
def Survey.returned (level : Nat) : EStateM.Result Stop Survey Unit →
    EStateM.Result Stop Survey Unit
  | .ok u after => .ok u { after with level }
  | .error stop after => .error stop { after with level }

/-- A survey at its end, whatever the end is. -/
def Survey.ending : EStateM.Result Stop Survey Unit → Survey
  | .ok _ after => after
  | .error _ after => after

theorem Survey.level_returned (level : Nat) (result : EStateM.Result Stop Survey Unit) :
    (ending (returned level result)).level = level := by
  cases result <;> rfl

namespace Scope

/-- Lets an event happen. To enter a record at the limit is to fail. -/
def perform (s : Scope) : Event → SurveyM Unit
  | .ask q => s.ask q
  | .enter place tag => do
    if s.limit ≤ (← get).level then fail (.tooDeep (place.path?.getD tag.name) s.limit)
    else modify fun survey => { survey with level := survey.level + 1 }
  | .leave => modify fun survey => { survey with level := survey.level - 1 }

/-- Lets events happen in turn. -/
def performAll (s : Scope) : List Event → SurveyM Unit
  | [] => pure ()
  | e :: rest => do
    s.perform e
    s.performAll rest

theorem perform_enter (s : Scope) (place : Place) (tag : TypeTag) (survey : Survey) :
    s.perform (.enter place tag) survey =
      if s.limit ≤ survey.level then
        .error (.failed (.tooDeep (place.path?.getD tag.name) s.limit)) survey
      else .ok () { survey with level := survey.level + 1 } := by
  show (if s.limit ≤ survey.level then _ else _ : SurveyM Unit) survey = _
  split <;> rfl

theorem perform_leave (s : Scope) (survey : Survey) :
    s.perform .leave survey = .ok () { survey with level := survey.level - 1 } := rfl

theorem performAll_cons (s : Scope) (e : Event) (rest : List Event) (survey : Survey) :
    s.performAll (e :: rest) survey =
      match s.perform e survey with
      | .ok _ after => s.performAll rest after
      | .error stop after => .error stop after :=
  bind_apply (s.perform e) (s.performAll rest) survey

theorem performAll_append (s : Scope) (a b : List Event) (survey : Survey) :
    s.performAll (a ++ b) survey =
      match s.performAll a survey with
      | .ok _ after => s.performAll b after
      | .error stop after => .error stop after := by
  induction a generalizing survey with
  | nil => rfl
  | cons e rest ih =>
    rw [List.cons_append, performAll_cons, performAll_cons]
    cases s.perform e survey with
    | ok u after => exact ih after
    | error stop after => rfl

theorem performAll_ask (s : Scope) (l : List Inquiry) (survey : Survey) :
    s.performAll (l.map .ask) survey = s.askAll l survey := by
  induction l generalizing survey with
  | nil => rfl
  | cons q rest ih =>
    rw [List.map_cons, performAll_cons]
    show _ = (do s.ask q; s.askAll rest : SurveyM Unit) survey
    rw [bind_apply, perform]
    cases s.ask q survey with
    | ok u after => exact ih after
    | error stop after => rfl

end Scope

/-- A step that does what its itinerary says. If it stops on the way it is at the level that
it came from all the same. -/
structure Scope.Traverses (s : Scope) (body : SurveyM Unit) (events : List Event) : Prop where
  apply_eq : ∀ survey, body survey = Survey.returned survey.level (s.performAll events survey)
  balanced : ∀ {survey u after}, s.performAll events survey = .ok u after →
    after.level = survey.level

namespace Scope.Traverses

variable {s : Scope} {a b : SurveyM Unit} {A B : List Event}

/-- A step is left at the level where it was begun, whatever happened in it. -/
theorem level_ending (h : s.Traverses a A) (survey : Survey) :
    (Survey.ending (a survey)).level = survey.level := by
  rw [h.apply_eq]
  exact Survey.level_returned survey.level _

theorem nothing : s.Traverses (pure ()) [] where
  apply_eq _ := rfl
  balanced h := by
    cases h
    rfl

theorem of_eq {l : List Inquiry} (h : a = s.askAll l) : s.Traverses a (l.map .ask) := by
  constructor
  · intro survey
    rw [h, performAll_ask, askAll_apply]
    unfold Transcript.play
    cases (Transcript.ofInquiries l).stop? s.extent <;> rfl
  · intro survey u after hok
    rw [performAll_ask, askAll_apply] at hok
    unfold Transcript.play at hok
    cases hstop : (Transcript.ofInquiries l).stop? s.extent with
    | none =>
      rw [hstop] at hok
      cases hok
      rfl
    | some stop =>
      rw [hstop] at hok
      cases hok

theorem andThen (ha : s.Traverses a A) (hb : s.Traverses b B) :
    s.Traverses (do a; b) (A ++ B) := by
  constructor
  · intro survey
    rw [bind_apply, performAll_append, ha.apply_eq]
    cases hA : s.performAll A survey with
    | ok u after =>
      have hlevel := ha.balanced hA
      have hafter : { after with level := survey.level } = after := by rw [← hlevel]
      show b { after with level := survey.level } = _
      rw [hafter, hb.apply_eq, hlevel]
    | error stop after => rfl
  · intro survey u after h
    rw [performAll_append] at h
    cases hA : s.performAll A survey with
    | ok u mid =>
      rw [hA] at h
      rw [hb.balanced h, ha.balanced hA]
    | error stop mid =>
      rw [hA] at h
      cases h

/-- What happens in a record is at the next level, and leads back to the one before. -/
theorem performAll_record (ha : s.Traverses a A) (place : Place) (tag : TypeTag)
    (survey : Survey) :
    s.performAll (.enter place tag :: (A ++ [.leave])) survey =
      if s.limit ≤ survey.level then
        .error (.failed (.tooDeep (place.path?.getD tag.name) s.limit)) survey
      else
        match s.performAll A { survey with level := survey.level + 1 } with
        | .ok u after => .ok u { after with level := survey.level }
        | .error stop after => .error stop after := by
  rw [performAll_cons, perform_enter]
  by_cases hlimit : s.limit ≤ survey.level
  · rw [if_pos hlimit, if_pos hlimit]
  · rw [if_neg hlimit, if_neg hlimit]
    dsimp only
    rw [performAll_append]
    cases hA : s.performAll A { survey with level := survey.level + 1 } with
    | ok u after =>
      have hlevel : after.level = survey.level + 1 := ha.balanced hA
      dsimp only
      rw [performAll_cons, perform_leave, hlevel]
      rfl
    | error stop after => rfl

theorem enter {t : Terrain} {extent : Extent} {limit : Nat} {place : Place}
    {path : Option String} (hpath : place.path? = path) (tag : TypeTag)
    {body : Blueprint → SurveyM Unit} {B : Blueprint → List Event}
    (hbody : ∀ blueprint, (t.scope extent limit).Traverses (body blueprint) (B blueprint)) :
    (t.scope extent limit).Traverses ((t.scope extent limit).enter path tag body)
      (t.visit place tag B) := by
  unfold Terrain.visit
  constructor
  · intro survey
    rw [enter_apply, show (t.scope extent limit).blueprints = t.blueprints from rfl]
    cases t.blueprints.find? tag with
    | none => rfl
    | some blueprint =>
      dsimp only
      rw [(hbody blueprint).performAll_record, hpath]
      split
      · rfl
      · rw [nested, (hbody blueprint).apply_eq]
        cases (t.scope extent limit).performAll (B blueprint)
          { survey with level := survey.level + 1 } <;> rfl
  · intro survey u after h
    cases hfind : t.blueprints.find? tag with
    | none =>
      rw [hfind] at h
      cases h
    | some blueprint =>
      rw [hfind] at h
      dsimp only at h
      rw [(hbody blueprint).performAll_record] at h
      split at h
      · cases h
      · split at h <;> cases h
        rfl

end Scope.Traverses

namespace Terrain

open Scope

variable (t : Terrain) (extent : Extent) (limit : Nat)

mutual

/-- To check a value is to let happen what its itinerary says. -/
theorem check_traverses (c : Constraint) (nullable : Bool) {place : Place}
    {label : String} (hplace : place.path? = some label) :
    (value : Value) → (t.scope extent limit).Traverses
      ((t.scope extent limit).check c nullable label value) (t.itinerary c nullable place value)
  | .just inner => by
    cases c with
    | unchecked =>
      simp only [check, itinerary]
      exact .nothing
    | pointer head target =>
      simp only [check, itinerary]
      exact .of_eq ((t.scope extent limit).checkPointer_eq hplace head target (.just inner))
    | scalar _ | sequence _ _ | record _ =>
      simp only [check, itinerary]
      exact check_traverses _ true hplace inner
  | .sequence items => by
    cases c with
    | sequence head element =>
      simp only [check, itinerary]
      exact .andThen (.of_eq ((t.scope extent limit).checkSegment_eq hplace .sequence head _ _))
        (checkElements_traverses element hplace 0 items)
    | unchecked | scalar _ | pointer _ _ | record _ =>
      simp only [check, itinerary]
      exact .of_eq ((t.scope extent limit).checkPlain_eq hplace _ nullable _)
  | .record tag fields => by
    cases c with
    | record head =>
      simp only [check, itinerary]
      exact .andThen (.of_eq ((t.scope extent limit).applyCustom_eq hplace _ .record head.custom))
        (.enter hplace tag fun blueprint =>
          .andThen (checkFields_traverses blueprint hplace tag fields blueprint.fields)
            (.of_eq ((t.scope extent limit).applyRecordRules_eq hplace blueprint tag fields)))
    | unchecked | scalar _ | pointer _ _ | sequence _ _ =>
      simp only [check, itinerary]
      exact .of_eq ((t.scope extent limit).checkPlain_eq hplace _ nullable _)
  | .text _ | .integer _ | .float _ | .time _ | .null | .inert => by
    simp only [check, itinerary]
    exact .of_eq ((t.scope extent limit).checkPlain_eq hplace c nullable _)

theorem checkElements_traverses (c : Constraint) {place : Place} {label : String}
    (hplace : place.path? = some label) (index : Nat) :
    (items : List Value) → (t.scope extent limit).Traverses
      ((t.scope extent limit).checkElements c label index items)
      (t.elementItinerary c place index items)
  | [] => by
    simp only [checkElements, elementItinerary]
    exact .nothing
  | item :: rest => by
    simp only [checkElements, elementItinerary]
    exact .andThen (check_traverses c false (Place.path?_element hplace index) item)
      (checkElements_traverses c hplace (index + 1) rest)

theorem checkFields_traverses (blueprint : Blueprint) {place : Place}
    {path : Option String} (hplace : place.path? = path) (tag : TypeTag) :
    (values : List Value) → (plans : List FieldPlan) → (t.scope extent limit).Traverses
      ((t.scope extent limit).checkFields blueprint path tag values plans)
      (t.fieldItinerary blueprint place tag values plans)
  | [], plans => by
    simp only [checkFields, fieldItinerary]
    exact .nothing
  | _ :: _, [] => by
    simp only [checkFields, fieldItinerary]
    exact .nothing
  | value :: values, plan :: plans => by
    have hfield : (place.field plan.name).path? = some (fieldLabel path plan.name) := by
      rw [Place.path?_field, hplace]
    have hrest := checkFields_traverses blueprint hplace tag values plans
    simp only [checkFields, fieldItinerary]
    by_cases hunchecked : plan.constraint.isUnchecked = true
    · simp only [if_pos hunchecked, List.nil_append]
      exact hrest
    by_cases hforeign : tag ≠ plan.owner
    · simp only [if_neg hunchecked, if_pos hforeign]
      refine .andThen (.of_eq (l := [_]) ?_) hrest
      rw [askAll_refusal, Place.label_of_path? hfield]
    · simp only [if_neg hunchecked, if_neg hforeign]
      exact .andThen (check_traverses plan.constraint false hfield value) hrest

end

theorem checkRoot_traverses (tag : TypeTag) (fields : List Value) :
    (t.scope extent limit).Traverses ((t.scope extent limit).checkRoot tag fields)
      (t.rootItinerary tag fields) := by
  have hroot : Place.root.path? = none := rfl
  exact .enter hroot tag fun blueprint =>
    .andThen (t.checkFields_traverses extent limit blueprint hroot tag fields blueprint.fields)
      (.of_eq ((t.scope extent limit).applyRecordRules_eq hroot blueprint tag fields))

theorem descend_traverses (path : String) (tag : TypeTag) (fields : List Value) :
    (t.scope extent limit).Traverses ((t.scope extent limit).descend path tag fields)
      (t.visit (.labelled path) tag fun blueprint =>
        t.fieldItinerary blueprint (.labelled path) tag fields blueprint.fields ++
          (Inquiry.ofRecordRules blueprint (.labelled path) tag fields).map .ask) := by
  have hplace : (Place.labelled path).path? = some path := rfl
  exact .enter hplace tag fun blueprint =>
    .andThen (t.checkFields_traverses extent limit blueprint hplace tag fields blueprint.fields)
      (.of_eq ((t.scope extent limit).applyRecordRules_eq hplace blueprint tag fields))

end Terrain

end RecordValidation
