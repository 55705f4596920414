import RecordValidation.Proofs.Agenda

/-!
The two extents of a survey. Both put the same inquiries, so a survey after the
first violation tells how a survey after all of them begins, and what it can not
tell is only what it never gets to.
-/

namespace RecordValidation

/-- What a survey after the first violation makes of a transcript. -/
def Transcript.first (t : Transcript) : Except Fault (Option Violation) :=
  match t.found, t.fault with
  | v :: _, _ => .ok (some v)
  | [], some f => .error f
  | [], none => .ok none

/-- A record type to show results on. It leads to itself. -/
def RecordType.user : RecordType where
  tag := ⟨1, "User"⟩
  fields := [
    .checked "name" .text "max:3|req",
    .checked "tags" (.sequence (.option .text)) "min:3|dive|req",
    .checked "boss" (.option (.record ⟨1, "User"⟩)) "req",
    .skipped "note"]

/-- A record of this type within another one. -/
def Record.user : Record where
  tag := ⟨1, "User"⟩
  fields := [.text "Anna", .sequence [.just (.text ""), .null],
    .just (.record ⟨1, "User"⟩ [.text "", .sequence [], .null, .inert]), .inert]

namespace Inspector

def terrain (i : Inspector) (now : Instant) : Terrain :=
  ⟨i.blueprints, i.settings.maxDepth, now⟩

/-- The transcript of all inquiries into a record. -/
def transcript (i : Inspector) (now : Instant) (r : Record) : Transcript :=
  .ofInquiries ((i.terrain now).root r.tag 0 r.fields)

theorem checkRoot_scope (i : Inspector) (extent : Extent) (now : Instant) (r : Record) :
    (i.scope extent now).checkRoot r.tag r.fields {} =
      (i.transcript now r).play extent {} := by
  rw [Scope.checkRoot_follows, Scope.askAll_apply]
  rfl

theorem violations_eq (i : Inspector) (now : Instant) (r : Record) :
    i.violations now r = (i.transcript now r).outcome := by
  unfold violations inspect Survey.outcome
  rw [checkRoot_scope]
  generalize i.transcript now r = t
  obtain ⟨found, fault⟩ := t
  cases fault <;> rfl

theorem violation?_eq (i : Inspector) (now : Instant) (r : Record) :
    i.violation? now r = (i.transcript now r).first := by
  unfold violation? inspect Survey.outcome
  rw [checkRoot_scope]
  generalize i.transcript now r = t
  obtain ⟨found, fault⟩ := t
  cases found <;> cases fault <;> rfl

/-- A check for the first violation and a check for all of them agree on every
record. Where the full check ends with a fault, the other one ends with it as
well, or with the first violation that the full check had found by then. -/
theorem extents_agree (i : Inspector) (now : Instant) (r : Record) :
    (∀ vs, i.violations now r = .ok vs → i.violation? now r = .ok vs.first?) ∧
    (∀ f, i.violation? now r = .error f → i.violations now r = .error f) ∧
    (∀ f, i.violations now r = .error f →
      i.violation? now r ≠ .ok none ∧
      ∃ survey, (i.scope .all now).checkRoot r.tag r.fields {} = .error (.failed f) survey ∧
        i.violation? now r = match survey.found with
          | [] => .error f
          | v :: _ => .ok (some v)) := by
  rw [violations_eq, violation?_eq, checkRoot_scope]
  generalize i.transcript now r = t
  obtain ⟨found, fault⟩ := t
  cases fault with
  | none =>
    refine ⟨?_, ?_, nofun⟩
    · intro vs h
      cases h
      cases found <;> rfl
    · intro f h
      cases found <;> cases h
  | some g =>
    refine ⟨nofun, ?_, ?_⟩
    · intro f h
      cases found with
      | nil =>
        cases h
        rfl
      | cons v rest => cases h
    · intro f h
      cases h
      constructor
      · cases found <;> nofun
      · exact ⟨_, rfl, by cases found <;> rfl⟩

/-- The full check gets too deep after three violations, of which the other check finds
the first. -/
theorem extents_agree_user :
    ∃ i : Inspector, i.violations ⟨0⟩ .user = .error (.tooDeep "boss" 1) ∧
      i.violation? ⟨0⟩ .user =
        .ok (some ⟨"name", "name can not be longer than 3 characters", "max"⟩) := by
  have hcourse : ((run { settings := { maxDepth := 1 } } ⟨0⟩ [.register .user]).1.scope .all
      ⟨0⟩).checkRoot Record.user.tag Record.user.fields {} =
      .error (.failed (.tooDeep "boss" 1)) ⟨0, [
        ⟨"name", "name can not be longer than 3 characters", "max"⟩,
        ⟨"tags", "tags must have at least 3 elements", "min"⟩, .required "tags[1]"]⟩ := by cbv
  have hfault : (run { settings := { maxDepth := 1 } } ⟨0⟩ [.register .user]).1.violations ⟨0⟩
      .user = .error (.tooDeep "boss" 1) := by
    unfold violations inspect Survey.outcome
    rw [hcourse]
  obtain ⟨-, survey, hsurvey, hviolation⟩ := (extents_agree _ _ _).2.2 _ hfault
  rw [hcourse] at hsurvey
  cases hsurvey
  exact ⟨_, hfault, hviolation⟩

end Inspector

end RecordValidation
