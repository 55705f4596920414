import RecordValidation.Proofs.Transcript

/-!
Surveys follow agendas. Each function of a survey puts the inquiries of its agenda
and does nothing else, so that what is true of lists of inquiries is true of
surveys.
-/

namespace RecordValidation

namespace Scope

def terrain (s : Scope) : Terrain := ⟨s.blueprints, s.limit, s.now⟩

/-- Puts one inquiry. -/
def ask (s : Scope) (q : Inquiry) : SurveyM Unit :=
  match q.answer with
  | .ok none => pure ()
  | .ok (some v) => s.report v
  | .error f => fail f

/-- Puts inquiries in turn. -/
def askAll (s : Scope) : List Inquiry → SurveyM Unit
  | [] => pure ()
  | q :: rest => do
    s.ask q
    s.askAll rest

theorem bind_apply (a b : SurveyM Unit) (survey : Survey) :
    (do a; b : SurveyM Unit) survey =
      match a survey with
      | .ok _ after => b after
      | .error stop after => .error stop after := by
  show EStateM.bind a (fun _ => b) survey = _
  unfold EStateM.bind
  cases a survey <;> rfl

theorem report_apply (s : Scope) (v : Violation) (survey : Survey) :
    s.report v survey = Transcript.play ⟨[v], none⟩ s.extent survey := by
  unfold report
  cases s.extent <;> rfl

theorem ask_apply (s : Scope) (q : Inquiry) (survey : Survey) :
    s.ask q survey = (Transcript.ofAnswer q.answer).play s.extent survey := by
  unfold ask
  cases q.answer with
  | error f => exact (Transcript.play_fault f s.extent survey).symm
  | ok found =>
    cases found with
    | none => exact (Transcript.play_empty s.extent survey).symm
    | some v => exact report_apply s v survey

/-- The course of a survey is read off the transcript of its inquiries. -/
theorem askAll_apply (s : Scope) (l : List Inquiry) (survey : Survey) :
    s.askAll l survey = (Transcript.ofInquiries l).play s.extent survey := by
  induction l generalizing survey with
  | nil => exact (Transcript.play_empty s.extent survey).symm
  | cons q rest ih =>
    rw [Transcript.ofInquiries, Transcript.play_andThen, ← ask_apply]
    show (do s.ask q; s.askAll rest : SurveyM Unit) survey = _
    rw [bind_apply]
    cases s.ask q survey with
    | ok u after => exact ih after
    | error stop after => rfl

theorem enter_apply (s : Scope) (path : Option String) (tag : TypeTag)
    (body : Blueprint → SurveyM Unit) (survey : Survey) :
    s.enter path tag body survey =
      match s.blueprints.find? tag with
      | none => fail (.notRegistered tag.name) survey
      | some blueprint =>
        if s.limit ≤ survey.level then fail (.tooDeep (path.getD tag.name) s.limit) survey
        else nested (body blueprint) survey := by
  unfold enter
  cases s.blueprints.find? tag with
  | none => rfl
  | some blueprint =>
    show (if s.limit ≤ survey.level then _ else _ : SurveyM Unit) survey = _
    split <;> rfl

theorem askAll_append (s : Scope) (a b : List Inquiry) :
    s.askAll (a ++ b) = (do s.askAll a; s.askAll b) := by
  induction a with
  | nil => simp only [List.nil_append, askAll, pure_bind]
  | cons q rest ih => simp only [List.cons_append, askAll, ih, bind_assoc]

theorem askAll_singleton (s : Scope) (q : Inquiry) : s.askAll [q] = s.ask q :=
  bind_pure (s.ask q)

theorem askAll_refusal (s : Scope) (place : Place) (f : Fault) :
    s.askAll [.refusal place f] = fail f :=
  s.askAll_singleton (.refusal place f)

end Scope

/-- A step that does nothing but put the inquiries of an agenda, which depends on
how deep the survey is. -/
def Scope.Follows (s : Scope) (body : SurveyM Unit) (agenda : Nat → List Inquiry) : Prop :=
  ∀ survey, body survey = s.askAll (agenda survey.level) survey

namespace Scope.Follows

variable {s : Scope} {a b : SurveyM Unit} {A B : Nat → List Inquiry}

theorem nothing : s.Follows (pure ()) (fun _ => []) := fun _ => rfl

theorem of_eq {l : List Inquiry} (h : a = s.askAll l) : s.Follows a (fun _ => l) := by
  intro survey
  rw [h]

/-- The agendas of two steps in turn stand one after the other. -/
theorem andThen (ha : s.Follows a A) (hb : s.Follows b B) :
    s.Follows (do a; b) (fun level => A level ++ B level) := by
  intro survey
  rw [askAll_append, bind_apply, bind_apply, ha survey, askAll_apply]
  unfold Transcript.play
  cases (Transcript.ofInquiries (A survey.level)).stop? s.extent with
  | some stop => rfl
  | none => exact hb _

/-- What is asked one level deeper leaves the level as it was. -/
theorem nested (ha : s.Follows a A) :
    s.Follows (nested a) (fun level => A (level + 1)) := by
  intro survey
  unfold Scope.nested
  rw [ha, askAll_apply, askAll_apply]
  unfold Transcript.play
  cases (Transcript.ofInquiries (A (survey.level + 1))).stop? s.extent <;> rfl

/-- To enter a record is to put the inquiries on its way in, and then its own. -/
theorem enter {place : Place} {path : Option String} (hpath : place.path? = path)
    (tag : TypeTag) {body : Blueprint → SurveyM Unit} {B : Blueprint → Nat → List Inquiry}
    (hbody : ∀ blueprint, s.Follows (body blueprint) (B blueprint)) :
    s.Follows (s.enter path tag body)
      (fun level => s.terrain.entry place tag level fun blueprint => B blueprint (level + 1)) := by
  intro survey
  show s.enter path tag body survey =
    s.askAll (s.terrain.entry place tag survey.level fun blueprint =>
      B blueprint (survey.level + 1)) survey
  rw [enter_apply, Terrain.entry, hpath, show s.terrain.blueprints = s.blueprints from rfl,
    show s.terrain.limit = s.limit from rfl]
  cases s.blueprints.find? tag with
  | none => exact (congrFun (s.askAll_refusal place _) survey).symm
  | some blueprint =>
    by_cases hlimit : s.limit ≤ survey.level
    · simp only [hlimit, if_true]
      exact (congrFun (s.askAll_refusal place _) survey).symm
    · simp only [hlimit, if_false]
      exact (hbody blueprint).nested survey

end Scope.Follows

namespace Scope

open Inquiry

variable (s : Scope) (place : Place)

theorem reportAll_eq (value : Value) (vs : List Violation) :
    s.reportAll vs = s.askAll (vs.map (.builtin place value)) := by
  induction vs with
  | nil => rfl
  | cons v rest ih =>
    show (do s.report v; s.reportAll rest) = _
    rw [ih]
    rfl

variable {place} {label : String} (hplace : place.path? = some label)

include hplace

theorem ask_custom (value : Value) (station : Station) (r : NamedRule) :
    s.ask (.custom place value station r) =
      match r.rule label value with
      | .ok none => pure ()
      | .ok (some message) => s.report ⟨label, message, r.name⟩
      | .error source => fail (.rule label r.name source) := by
  simp only [ask, answer, Place.label_of_path? hplace]
  cases r.rule label value with
  | error source => rfl
  | ok found => cases found <;> rfl

theorem applyCustom_eq (value : Value) (station : Station) (rules : List NamedRule) :
    s.applyCustom label value rules = s.askAll (ofRules place value station rules) := by
  induction rules with
  | nil => rfl
  | cons r rest ih =>
    show _ = (do s.ask (.custom place value station r); s.askAll (ofRules place value station rest))
    rw [applyCustom, ih, s.ask_custom hplace]
    cases r.rule label value with
    | error source => rfl
    | ok found => cases found <;> rfl

theorem reportAbsent_eq (value : Value) (required : Bool) :
    s.reportAbsent required label = s.askAll (ofAbsence required place value) := by
  cases required with
  | false => rfl
  | true =>
    show s.report (.required label) = s.askAll [.required place value]
    rw [askAll_singleton, ← Place.label_of_path? hplace]
    rfl

theorem mismatch_eq (expected : Kind) (found : Value) :
    mismatch label expected found = s.askAll (ofMismatch place expected found) := by
  unfold ofMismatch
  rw [askAll_singleton, Place.label_of_path? hplace]
  rfl

theorem checkSegment_eq {β α : Type} (station : Station) (seg : Segment β α) (g : Gauge β α)
    (value : Value) :
    s.checkSegment seg g label value = s.askAll (ofSegment station seg g place value) := by
  unfold checkSegment ofSegment
  rw [askAll_append, ← s.reportAll_eq, Place.label_of_path? hplace,
    s.applyCustom_eq hplace value station]

theorem checkScalar_eq (target : ScalarConstraint) (value : Value) :
    s.checkScalar label target value = s.askAll (s.terrain.scalar place target value) := by
  cases target <;> cases value <;>
    first
    | exact s.checkSegment_eq hplace _ _ _ _
    | exact s.mismatch_eq hplace _ _

theorem checkIfPresent_eq (target : ScalarConstraint) (nullable : Bool) (value : Value) :
    s.checkIfPresent label target (value.present? nullable) =
      s.askAll (s.terrain.ifPresent place target nullable value) := by
  unfold Terrain.ifPresent
  cases value.present? nullable with
  | none => exact s.reportAbsent_eq hplace value target.required
  | some present => exact s.checkScalar_eq hplace target present

theorem checkPointer_eq (head : Segment Empty Empty) (target : ScalarConstraint)
    (value : Value) :
    s.checkPointer label head target value =
      s.askAll (s.terrain.pointer place head target value) := by
  cases value with
  | null => exact s.reportAbsent_eq hplace .null head.required
  | just pointee =>
    rw [checkPointer, Terrain.pointer, askAll_append,
      s.applyCustom_eq hplace _ .pointer, s.checkIfPresent_eq hplace]
  | _ =>
    rw [checkPointer, Terrain.pointer, askAll_append,
      s.applyCustom_eq hplace _ .pointer, s.checkIfPresent_eq hplace]
    all_goals
      intros
      contradiction

theorem checkPlain_eq (c : Constraint) (nullable : Bool) (value : Value) :
    s.checkPlain nullable label value c = s.askAll (s.terrain.plain nullable place value c) := by
  cases c with
  | unchecked => rfl
  | scalar target => exact s.checkIfPresent_eq hplace target nullable value
  | pointer head target => exact s.checkPointer_eq hplace head target value
  | sequence head element =>
    rw [checkPlain, Terrain.plain]
    cases value.present? nullable with
    | none => exact s.reportAbsent_eq hplace value head.required
    | some present => exact s.mismatch_eq hplace .sequence present
  | record head =>
    rw [checkPlain, Terrain.plain]
    cases value.present? nullable with
    | none => exact s.reportAbsent_eq hplace value head.required
    | some present => exact s.mismatch_eq hplace .record present

omit hplace in
theorem ask_record {path : Option String} (hpath : place.path? = path) (tag : TypeTag)
    (fields : List Value) (model : String) (r : OwnedRule) :
    s.ask (.record place tag fields model r) =
      match r.apply tag fields with
      | .ok none => pure ()
      | .ok (some message) => s.report ⟨path.getD model, message, Violation.recordCode⟩
      | .error source => fail (.recordRule model source) := by
  simp only [ask, answer, hpath]
  cases r.apply tag fields with
  | error source => rfl
  | ok found => cases found <;> rfl

omit hplace in
theorem applyRecordRules_eq {path : Option String} (hpath : place.path? = path)
    (blueprint : Blueprint) (tag : TypeTag) (fields : List Value) :
    s.applyRecordRules blueprint path tag fields blueprint.recordRules =
      s.askAll (ofRecordRules blueprint place tag fields) := by
  unfold ofRecordRules
  generalize blueprint.recordRules = rules
  induction rules with
  | nil => rfl
  | cons r rest ih =>
    show _ = (do s.ask (.record place tag fields blueprint.name r); s.askAll _)
    rw [applyRecordRules, ih, s.ask_record hpath]
    cases r.apply tag fields with
    | error source => rfl
    | ok found => cases found <;> rfl

end Scope

namespace Scope

open Inquiry

mutual

/-- To check a value is to put the inquiries of its agenda. -/
theorem check_follows (s : Scope) (c : Constraint) (nullable : Bool) {place : Place}
    {label : String} (hplace : place.path? = some label) :
    (value : Value) → s.Follows (s.check c nullable label value)
      (fun level => s.terrain.agenda c nullable place level value)
  | .just inner => by
    cases c with
    | unchecked =>
      simp only [check, Terrain.agenda]
      exact .nothing
    | pointer head target =>
      simp only [check, Terrain.agenda]
      exact .of_eq (s.checkPointer_eq hplace head target (.just inner))
    | scalar _ | sequence _ _ | record _ =>
      simp only [check, Terrain.agenda]
      exact check_follows s _ true hplace inner
  | .sequence items => by
    cases c with
    | sequence head element =>
      simp only [check, Terrain.agenda]
      exact .andThen (.of_eq (s.checkSegment_eq hplace .sequence head _ _))
        (checkElements_follows s element hplace 0 items)
    | unchecked | scalar _ | pointer _ _ | record _ =>
      simp only [check, Terrain.agenda]
      exact .of_eq (s.checkPlain_eq hplace _ nullable _)
  | .record tag fields => by
    cases c with
    | record head =>
      simp only [check, Terrain.agenda]
      exact .andThen (.of_eq (s.applyCustom_eq hplace _ .record head.custom))
        (.enter hplace tag fun blueprint =>
          .andThen (checkFields_follows s blueprint hplace tag fields blueprint.fields)
            (.of_eq (s.applyRecordRules_eq hplace blueprint tag fields)))
    | unchecked | scalar _ | pointer _ _ | sequence _ _ =>
      simp only [check, Terrain.agenda]
      exact .of_eq (s.checkPlain_eq hplace _ nullable _)
  | .text _ | .integer _ | .float _ | .time _ | .null | .inert => by
    simp only [check, Terrain.agenda]
    exact .of_eq (s.checkPlain_eq hplace c nullable _)

theorem checkElements_follows (s : Scope) (c : Constraint) {place : Place} {label : String}
    (hplace : place.path? = some label) (index : Nat) :
    (items : List Value) → s.Follows (s.checkElements c label index items)
      (fun level => s.terrain.elements c place index level items)
  | [] => by
    simp only [checkElements, Terrain.elements]
    exact .nothing
  | item :: rest => by
    simp only [checkElements, Terrain.elements]
    exact .andThen (check_follows s c false (Place.path?_element hplace index) item)
      (checkElements_follows s c hplace (index + 1) rest)

theorem checkFields_follows (s : Scope) (blueprint : Blueprint) {place : Place}
    {path : Option String} (hplace : place.path? = path) (tag : TypeTag) :
    (values : List Value) → (plans : List FieldPlan) →
      s.Follows (s.checkFields blueprint path tag values plans)
        (fun level => s.terrain.fields blueprint place tag level values plans)
  | [], plans => by
    simp only [checkFields, Terrain.fields]
    exact .nothing
  | _ :: _, [] => by
    simp only [checkFields, Terrain.fields]
    exact .nothing
  | value :: values, plan :: plans => by
    have hfield : (place.field plan.name).path? = some (fieldLabel path plan.name) := by
      rw [Place.path?_field, hplace]
    have hrest := checkFields_follows s blueprint hplace tag values plans
    simp only [checkFields, Terrain.fields]
    by_cases hunchecked : plan.constraint.isUnchecked = true
    · simp only [if_pos hunchecked, List.nil_append]
      exact hrest
    by_cases hforeign : tag ≠ plan.owner
    · simp only [if_neg hunchecked, if_pos hforeign]
      refine .andThen (.of_eq ?_) hrest
      rw [askAll_refusal, Place.label_of_path? hfield]
    · simp only [if_neg hunchecked, if_neg hforeign]
      exact .andThen (check_follows s plan.constraint false hfield value) hrest

end

theorem checkRoot_follows (s : Scope) (tag : TypeTag) (fields : List Value) :
    s.Follows (s.checkRoot tag fields) (fun level => s.terrain.root tag level fields) := by
  have hroot : Place.root.path? = none := rfl
  exact .enter hroot tag fun blueprint =>
    .andThen (checkFields_follows s blueprint hroot tag fields blueprint.fields)
      (.of_eq (s.applyRecordRules_eq hroot blueprint tag fields))

end Scope

end RecordValidation
