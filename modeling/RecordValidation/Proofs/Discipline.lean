import RecordValidation.Proofs.Agenda

/-!
The discipline of surveys. Whatever a survey checks, it only adds to what it has found, it
comes back to the level that it was at, and what it has found so far makes no difference to
what it adds or to how it ends. A survey after the first violation is stopped by that
violation and by no other way of being full.
-/

namespace RecordValidation

/-- What may have been added by a check that ended in some way. A survey after the first
violation goes on as long as there is none; a survey after all of them is never full. -/
inductive Extent.Allows : Extent → Option Stop → List Violation → Prop
  | through : Extent.Allows .first none []
  | full (v : Violation) : Extent.Allows .first (some .full) [v]
  | failed (f : Fault) : Extent.Allows .first (some (.failed f)) []
  | allThrough (added : List Violation) : Extent.Allows .all none added
  | allFailed (f : Fault) (added : List Violation) : Extent.Allows .all (some (.failed f)) added

/-- The end of a check that was stopped, or came through. -/
def Survey.endedBy (stop? : Option Stop) (after : Survey) : EStateM.Result Stop Survey Unit :=
  match stop? with
  | none => .ok () after
  | some stop => .error stop after

namespace Scope

/-- A check that keeps to the discipline: from each level it ends in one way and adds the
same violations to whatever was found before, as many as its end allows. -/
def Disciplined (s : Scope) (body : SurveyM Unit) : Prop :=
  ∀ level, ∃ stop? added, s.extent.Allows stop? added ∧
    ∀ found, body ⟨level, found⟩ = Survey.endedBy stop? ⟨level, found ++ added⟩

/-- Checks a record that has been entered: its fields, then the rules for it as a whole. -/
def checkRecord (s : Scope) (blueprint : Blueprint) (path : Option String) (tag : TypeTag)
    (fields : List Value) : SurveyM Unit := do
  s.checkFields blueprint path tag fields blueprint.fields
  s.applyRecordRules blueprint path tag fields blueprint.recordRules

end Scope

/-- What a survey keeps of a transcript is what its end allows. -/
theorem Transcript.allows (t : Transcript) (extent : Extent) :
    extent.Allows (t.stop? extent) (t.collected extent) := by
  obtain ⟨found, fault⟩ := t
  cases extent with
  | first =>
    cases found with
    | cons v rest => exact .full v
    | nil =>
      cases fault with
      | none => exact .through
      | some f => exact .failed f
  | all =>
    cases fault with
    | none => exact .allThrough found
    | some f => exact .allFailed f found

theorem Transcript.play_eq_endedBy (t : Transcript) (extent : Extent) (survey : Survey) :
    t.play extent survey = Survey.endedBy (t.stop? extent)
      { survey with found := survey.found ++ t.collected extent } := by
  unfold play Survey.endedBy
  cases t.stop? extent <;> rfl

namespace Scope

variable {s : Scope}

/-- A check that does nothing but put inquiries keeps to the discipline, for the inquiries
depend on the level alone. -/
theorem Follows.disciplined {body : SurveyM Unit} {agenda : Nat → List Inquiry}
    (h : s.Follows body agenda) : s.Disciplined body := by
  intro level
  have hallows := (Transcript.ofInquiries (agenda level)).allows s.extent
  refine ⟨_, _, hallows, fun found => ?_⟩
  have hbody : body ⟨level, found⟩ = s.askAll (agenda level) ⟨level, found⟩ := h ⟨level, found⟩
  rw [hbody, askAll_apply, Transcript.play_eq_endedBy]

theorem checkRecord_follows (s : Scope) (blueprint : Blueprint) {place : Place}
    {path : Option String} (hplace : place.path? = path) (tag : TypeTag) (fields : List Value) :
    s.Follows (s.checkRecord blueprint path tag fields) fun level =>
      s.terrain.fields blueprint place tag level fields blueprint.fields ++
        Inquiry.ofRecordRules blueprint place tag fields := by
  have hfields := checkFields_follows s blueprint hplace tag fields blueprint.fields
  have hrules := s.applyRecordRules_eq hplace blueprint tag fields
  exact .andThen hfields (.of_eq hrules)

/-- For every path there is a place that has it. -/
theorem exists_place (path : Option String) : ∃ place : Place, place.path? = path := by
  cases path with
  | none => exact ⟨.root, rfl⟩
  | some label => exact ⟨.labelled label, rfl⟩

/-- Checks keep to the discipline: those of a value by a constraint, those of a record by a
blueprint, and those that enter a record, within another one or in no other. Whatever was
found before stays as it was, in front of what is added, and the level is the one that the
check was begun at, however it ends. A survey after the first violation has found none if
it comes through or fails, and one if it is full; a survey after all of them is never full.
What is added and how the check ends do not depend on what was found before. -/
theorem checks_disciplined (s : Scope) :
    (∀ (c : Constraint) (nullable : Bool) (label : String) (value : Value),
      s.Disciplined (s.check c nullable label value)) ∧
    (∀ (blueprint : Blueprint) (path : Option String) (tag : TypeTag) (fields : List Value),
      s.Disciplined (s.checkRecord blueprint path tag fields)) ∧
    (∀ (path : Option String) (tag : TypeTag) (fields : List Value),
      s.Disciplined (s.enter path tag fun blueprint =>
        s.checkRecord blueprint path tag fields)) ∧
    ∀ (tag : TypeTag) (fields : List Value), s.Disciplined (s.checkRoot tag fields) := by
  refine ⟨?_, ?_, ?_, ?_⟩
  · intro c nullable label value
    have hplace : (Place.labelled label).path? = some label := rfl
    exact (check_follows s c nullable hplace value).disciplined
  · intro blueprint path tag fields
    obtain ⟨place, hplace⟩ := exists_place path
    exact (checkRecord_follows s blueprint hplace tag fields).disciplined
  · intro path tag fields
    obtain ⟨place, hplace⟩ := exists_place path
    have henter := Follows.enter hplace tag fun blueprint =>
      checkRecord_follows s blueprint hplace tag fields
    exact henter.disciplined
  · intro tag fields
    exact (checkRoot_follows s tag fields).disciplined

/-- Of two elements that are missing, a survey after the first violation is stopped at the
first one. -/
example :
    let c : Constraint := .sequence {} (.scalar (.text { required := true }))
    let value : Value := .sequence [.text "a", .text "", .text ""]
    let found : List Violation := [.required "name"]
    check ⟨.empty, .first, 64, ⟨0⟩⟩ c false "tags" value ⟨2, found⟩ =
        .error .full ⟨2, found ++ [.required "tags[1]"]⟩ ∧
      check ⟨.empty, .all, 64, ⟨0⟩⟩ c false "tags" value ⟨2, found⟩ =
        .ok () ⟨2, found ++ [.required "tags[1]", .required "tags[2]"]⟩ := by
  constructor <;> cbv

end Scope

end RecordValidation
