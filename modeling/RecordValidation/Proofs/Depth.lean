import RecordValidation.Proofs.Itinerary

/-!
The depth limit. A survey is cut where its itinerary enters a record with as many records
open as the limit allows, and goes on as without a limit everywhere else. Shown of single
events first, and from these of all that a survey performs.
-/

namespace RecordValidation

/-- How many records are open after some events. -/
def Event.opened (before : Nat) : List Event → Nat
  | [] => before
  | .ask _ :: rest => opened before rest
  | .enter _ _ :: rest => opened (before + 1) rest
  | .leave :: rest => opened (before - 1) rest

namespace Scope

variable {s : Scope} {e : Event} {events : List Event} {survey after : Survey} {stop : Stop}

theorem ask_level (s : Scope) (q : Inquiry) (survey : Survey) :
    (Survey.ending (s.ask q survey)).level = survey.level := by
  rw [ask_apply]
  unfold Transcript.play
  cases (Transcript.ofAnswer q.answer).stop? s.extent <;> rfl

/-- An event that stops a survey leaves its level as it was. -/
theorem level_of_perform_error (h : s.perform e survey = .error stop after) :
    after.level = survey.level := by
  cases e with
  | ask q =>
    have hlevel := s.ask_level q survey
    rw [perform] at h
    rwa [h] at hlevel
  | enter place tag =>
    rw [perform_enter] at h
    split at h
    · cases h
      rfl
    · cases h
  | leave => cases h

theorem level_of_perform_ok {u : Unit} (h : s.perform e survey = .ok u after) :
    after.level = Event.opened survey.level [e] := by
  cases e with
  | ask q =>
    have hlevel := s.ask_level q survey
    rw [perform] at h
    rwa [h] at hlevel
  | enter place tag =>
    rw [perform_enter] at h
    split at h
    · cases h
    · cases h
      rfl
  | leave =>
    cases h
    rfl

/-- No event leads beyond the limit. -/
theorem level_perform_le (h : survey.level ≤ s.limit) :
    (Survey.ending (s.perform e survey)).level ≤ s.limit := by
  cases hresult : s.perform e survey with
  | error stop after =>
    have hlevel : after.level = survey.level := level_of_perform_error hresult
    rw [Survey.ending, hlevel]
    exact h
  | ok u after =>
    have hlevel := level_of_perform_ok hresult
    rw [Survey.ending, hlevel]
    cases e with
    | ask q => exact h
    | enter place tag =>
      rw [perform_enter] at hresult
      split at hresult
      · cases hresult
      · next hlimit => exact Nat.lt_of_not_le hlimit
    | leave => exact Nat.le_trans (Nat.sub_le _ _) h

theorem level_performAll_le (h : survey.level ≤ s.limit) :
    (Survey.ending (s.performAll events survey)).level ≤ s.limit := by
  induction events generalizing survey with
  | nil => exact h
  | cons e rest ih =>
    have hstep : (Survey.ending (s.perform e survey)).level ≤ s.limit := level_perform_le h
    rw [performAll_cons]
    cases hresult : s.perform e survey with
    | ok u after =>
      rw [hresult] at hstep
      exact ih hstep
    | error stop after =>
      rw [hresult] at hstep
      exact hstep

/-- As long as nothing stops a survey, its level is the number of records that are open. -/
theorem level_of_performAll_ok {u : Unit} (h : s.performAll events survey = .ok u after) :
    after.level = Event.opened survey.level events := by
  induction events generalizing survey with
  | nil =>
    cases h
    rfl
  | cons e rest ih =>
    rw [performAll_cons] at h
    cases hresult : s.perform e survey with
    | ok u mid =>
      rw [hresult] at h
      rw [ih h, level_of_perform_ok hresult]
      cases e <;> rfl
    | error stop mid =>
      rw [hresult] at h
      cases h

/-- A survey that stops has let happen all events up to the one that stops it. -/
theorem exists_of_performAll_error (h : s.performAll events survey = .error stop after) :
    ∃ before e rest mid, events = before ++ e :: rest ∧
      s.performAll before survey = .ok () mid ∧ s.perform e mid = .error stop after := by
  induction events generalizing survey with
  | nil => cases h
  | cons e rest ih =>
    rw [performAll_cons] at h
    cases hresult : s.perform e survey with
    | ok u next =>
      rw [hresult] at h
      obtain ⟨before, e', rest', mid, rfl, hbefore, hstop⟩ := ih h
      refine ⟨e :: before, e', rest', mid, rfl, ?_, hstop⟩
      rw [performAll_cons, hresult]
      exact hbefore
    | error stop' next =>
      rw [hresult] at h
      cases h
      exact ⟨[], e, rest, survey, rfl, rfl, hresult⟩

theorem performAll_append_of_error (h : s.performAll events survey = .error stop after)
    (rest : List Event) : s.performAll (events ++ rest) survey = .error stop after := by
  rw [performAll_append, h]

theorem answer_of_ask_error {q : Inquiry} {f : Fault}
    (h : s.ask q survey = .error (.failed f) after) : q.answer = .error f := by
  rw [ask_apply] at h
  cases hanswer : q.answer with
  | error f' =>
    rw [hanswer, Transcript.ofAnswer, Transcript.play_fault] at h
    cases h
    rfl
  | ok found =>
    rw [hanswer] at h
    cases found with
    | none =>
      rw [Transcript.ofAnswer, Transcript.play_empty] at h
      cases h
    | some v =>
      unfold Transcript.play at h
      cases hextent : s.extent <;> rw [hextent] at h <;> cases h

end Scope

namespace Terrain

open Scope

variable {n m : Nat} {events : List Event} {survey after : Survey} {label : String}
  {limit : Nat}

section

variable (t : Terrain) (extent : Extent)

/-- A greater limit makes a difference to an event only where the lesser one is reached. -/
theorem perform_limit_cases (h : n ≤ m) (e : Event) (survey : Survey) :
    (t.scope extent m).perform e survey = (t.scope extent n).perform e survey ∨
      ∃ label, (t.scope extent n).perform e survey =
        .error (.failed (.tooDeep label n)) survey := by
  cases e with
  | ask q => exact .inl rfl
  | leave => exact .inl rfl
  | enter place tag =>
    rw [perform_enter, perform_enter]
    by_cases hn : n ≤ survey.level
    · exact .inr ⟨_, if_pos hn⟩
    · have hm : ¬m ≤ survey.level := fun hm => hn (Nat.le_trans h hm)
      exact .inl ((if_neg hm).trans (if_neg hn).symm)

theorem performAll_limit_cases (h : n ≤ m) (events : List Event) (survey : Survey) :
    (t.scope extent m).performAll events survey = (t.scope extent n).performAll events survey ∨
      ∃ label after, (t.scope extent n).performAll events survey =
        .error (.failed (.tooDeep label n)) after := by
  induction events generalizing survey with
  | nil => exact .inl rfl
  | cons e rest ih =>
    rw [performAll_cons, performAll_cons]
    rcases t.perform_limit_cases extent h e survey with heq | ⟨label, hcut⟩
    · rw [heq]
      cases (t.scope extent n).perform e survey with
      | ok u after => exact ih after
      | error stop after => exact .inl rfl
    · rw [hcut]
      exact .inr ⟨label, survey, rfl⟩

/-- A survey of all violations that is not asked for anything with a fault ends well, or
gets too deep. -/
theorem performAll_all_cases (hanswers : ∀ q, .ask q ∈ events → ∀ f, q.answer ≠ .error f)
    (survey : Survey) :
    (∃ after, (t.scope .all n).performAll events survey = .ok () after) ∨
      ∃ label after, (t.scope .all n).performAll events survey =
        .error (.failed (.tooDeep label n)) after := by
  induction events generalizing survey with
  | nil => exact .inl ⟨survey, rfl⟩
  | cons e rest ih =>
    have hrest := ih fun q hq => hanswers q (List.mem_cons_of_mem e hq)
    rw [performAll_cons]
    cases e with
    | leave => exact hrest _
    | ask q =>
      rw [perform, ask_apply]
      cases hanswer : q.answer with
      | error f => exact absurd hanswer (hanswers q List.mem_cons_self f)
      | ok found => cases found <;> exact hrest _
    | enter place tag =>
      rw [perform_enter]
      by_cases hlimit : (t.scope .all n).limit ≤ survey.level
      · rw [if_pos hlimit]
        exact .inr ⟨_, survey, rfl⟩
      · rw [if_neg hlimit]
        exact hrest _

end

end Terrain

namespace Inquiry

/-- Inquiries that are not refused for the depth. -/
def Shallow : Inquiry → Prop
  | .refusal _ f => ∀ label limit, f ≠ .tooDeep label limit
  | _ => True

theorem Shallow.answer_ne {q : Inquiry} (h : q.Shallow) (label : String) (limit : Nat) :
    q.answer ≠ .error (.tooDeep label limit) := by
  intro hanswer
  cases q with
  | required place value => cases hanswer
  | builtin place value v => cases hanswer
  | custom place value station r =>
    obtain ⟨source, -, hf⟩ := custom_answer_eq_error hanswer
    cases hf
  | record place tag fields model r =>
    obtain ⟨source, hf⟩ := record_answer_eq_error hanswer
    cases hf
  | refusal place f => exact h label limit (Except.error.inj hanswer)

variable {place : Place} {value : Value}

theorem shallow_absence (required : Bool) : ∀ q ∈ ofAbsence required place value, q.Shallow := by
  intro q hq
  cases required with
  | false => cases hq
  | true =>
    cases List.mem_singleton.mp hq
    trivial

theorem shallow_mismatch (expected : Kind) (found : Value) :
    ∀ q ∈ ofMismatch place expected found, q.Shallow := by
  intro q hq
  cases List.mem_singleton.mp hq
  nofun

theorem shallow_rules (station : Station) (rules : List NamedRule) :
    ∀ q ∈ ofRules place value station rules, q.Shallow := by
  intro q hq
  obtain ⟨r, -, rfl⟩ := List.mem_map.mp hq
  trivial

theorem shallow_segment {β α : Type} (station : Station) (seg : Segment β α) (g : Gauge β α) :
    ∀ q ∈ ofSegment station seg g place value, q.Shallow := by
  intro q hq
  rcases List.mem_append.mp hq with hq | hq
  · obtain ⟨v, -, rfl⟩ := List.mem_map.mp hq
    trivial
  · exact shallow_rules station seg.custom q hq

theorem shallow_recordRules (blueprint : Blueprint) (tag : TypeTag) (fields : List Value) :
    ∀ q ∈ ofRecordRules blueprint place tag fields, q.Shallow := by
  intro q hq
  obtain ⟨r, -, rfl⟩ := List.mem_map.mp hq
  trivial

end Inquiry

namespace Terrain

open Inquiry

variable (t : Terrain) {place : Place}

theorem shallow_scalar (target : ScalarConstraint) (value : Value) :
    ∀ q ∈ t.scalar place target value, q.Shallow := by
  cases target <;> cases value <;>
    first
    | exact shallow_segment _ _ _
    | exact shallow_mismatch _ _

theorem shallow_ifPresent (target : ScalarConstraint) (nullable : Bool) (value : Value) :
    ∀ q ∈ t.ifPresent place target nullable value, q.Shallow := by
  unfold ifPresent
  cases value.present? nullable with
  | none => exact shallow_absence target.required
  | some present => exact t.shallow_scalar target present

theorem shallow_pointer (head : Segment Empty Empty) (target : ScalarConstraint)
    (value : Value) : ∀ q ∈ t.pointer place head target value, q.Shallow := by
  intro q hq
  cases value with
  | null => exact shallow_absence head.required q hq
  | _ =>
    rcases List.mem_append.mp hq with hq | hq
    · exact shallow_rules .pointer head.custom q hq
    · exact t.shallow_ifPresent target false _ q hq

theorem shallow_plain (nullable : Bool) (value : Value) (c : Constraint) :
    ∀ q ∈ t.plain nullable place value c, q.Shallow := by
  cases c with
  | unchecked => exact List.forall_mem_nil _
  | scalar target => exact t.shallow_ifPresent target nullable value
  | pointer head target => exact t.shallow_pointer head target value
  | sequence head element =>
    rw [plain]
    cases value.present? nullable with
    | none => exact shallow_absence head.required
    | some present => exact shallow_mismatch .sequence present
  | record head =>
    rw [plain]
    cases value.present? nullable with
    | none => exact shallow_absence head.required
    | some present => exact shallow_mismatch .record present

end Terrain

/-- Events that can stop a survey for its depth only by entering a record, and enter records
of registered types only. -/
def Event.Sound (t : Terrain) : Event → Prop
  | .ask q => q.Shallow
  | .enter _ tag => (t.blueprints.find? tag).isSome
  | .leave => True

namespace Terrain

open Inquiry

variable (t : Terrain)

theorem sound_map_ask {l : List Inquiry} (h : ∀ q ∈ l, q.Shallow) :
    ∀ e ∈ l.map .ask, Event.Sound t e := by
  intro e he
  obtain ⟨q, hq, rfl⟩ := List.mem_map.mp he
  exact h q hq

theorem sound_append {a b : List Event} (ha : ∀ e ∈ a, e.Sound t) (hb : ∀ e ∈ b, e.Sound t) :
    ∀ e ∈ a ++ b, e.Sound t := by
  intro e he
  rcases List.mem_append.mp he with he | he
  · exact ha e he
  · exact hb e he

theorem sound_visit {place : Place} {tag : TypeTag} {body : Blueprint → List Event}
    (h : ∀ blueprint, ∀ e ∈ body blueprint, e.Sound t) :
    ∀ e ∈ t.visit place tag body, e.Sound t := by
  unfold visit
  cases hfind : t.blueprints.find? tag with
  | none =>
    intro e he
    cases List.mem_singleton.mp he
    nofun
  | some blueprint =>
    intro e he
    rcases List.mem_cons.mp he with rfl | he
    · exact Option.isSome_of_eq_some hfind
    · rcases List.mem_append.mp he with he | he
      · exact h blueprint e he
      · cases List.mem_singleton.mp he
        trivial

mutual

theorem sound_itinerary (c : Constraint) (nullable : Bool) (place : Place) :
    (value : Value) → ∀ e ∈ t.itinerary c nullable place value, e.Sound t
  | .just inner => by
    cases c with
    | unchecked =>
      simp only [itinerary]
      exact List.forall_mem_nil _
    | pointer head target =>
      simp only [itinerary]
      exact t.sound_map_ask (t.shallow_pointer head target (.just inner))
    | scalar _ | sequence _ _ | record _ =>
      simp only [itinerary]
      exact sound_itinerary _ true place inner
  | .sequence items => by
    cases c with
    | sequence head element =>
      simp only [itinerary]
      exact t.sound_append (t.sound_map_ask (shallow_segment _ _ _))
        (sound_elementItinerary element place 0 items)
    | unchecked | scalar _ | pointer _ _ | record _ =>
      simp only [itinerary]
      exact t.sound_map_ask (t.shallow_plain nullable _ _)
  | .record tag fields => by
    cases c with
    | record head =>
      simp only [itinerary]
      exact t.sound_append (t.sound_map_ask (shallow_rules _ _))
        (t.sound_visit fun blueprint =>
          t.sound_append (sound_fieldItinerary blueprint place tag fields blueprint.fields)
            (t.sound_map_ask (shallow_recordRules blueprint tag fields)))
    | unchecked | scalar _ | pointer _ _ | sequence _ _ =>
      simp only [itinerary]
      exact t.sound_map_ask (t.shallow_plain nullable _ _)
  | .text _ | .integer _ | .float _ | .time _ | .null | .inert => by
    simp only [itinerary]
    exact t.sound_map_ask (t.shallow_plain nullable _ c)

theorem sound_elementItinerary (c : Constraint) (place : Place) (index : Nat) :
    (items : List Value) → ∀ e ∈ t.elementItinerary c place index items, e.Sound t
  | [] => by
    simp only [elementItinerary]
    exact List.forall_mem_nil _
  | item :: rest => by
    simp only [elementItinerary]
    exact t.sound_append (sound_itinerary c false (place.element index) item)
      (sound_elementItinerary c place (index + 1) rest)

theorem sound_fieldItinerary (blueprint : Blueprint) (place : Place) (tag : TypeTag) :
    (values : List Value) → (plans : List FieldPlan) →
      ∀ e ∈ t.fieldItinerary blueprint place tag values plans, e.Sound t
  | [], plans => by
    simp only [fieldItinerary]
    exact List.forall_mem_nil _
  | _ :: _, [] => by
    simp only [fieldItinerary]
    exact List.forall_mem_nil _
  | value :: values, plan :: plans => by
    simp only [fieldItinerary]
    refine t.sound_append ?_ (sound_fieldItinerary blueprint place tag values plans)
    split
    · exact List.forall_mem_nil _
    · split
      · intro e he
        cases List.mem_singleton.mp he
        nofun
      · exact sound_itinerary plan.constraint false (place.field plan.name) value

end

theorem sound_rootItinerary (tag : TypeTag) (fields : List Value) :
    ∀ e ∈ t.rootItinerary tag fields, e.Sound t :=
  t.sound_visit fun blueprint =>
    t.sound_append (t.sound_fieldItinerary blueprint .root tag fields blueprint.fields)
      (t.sound_map_ask (shallow_recordRules blueprint tag fields))

end Terrain

namespace Terrain

open Scope

variable {t : Terrain} {extent : Extent} {n : Nat} {events : List Event}
  {survey after : Survey} {label : String} {limit : Nat}

/-- A survey gets too deep exactly if it is to enter a record with the limit of records
open. -/
theorem performAll_tooDeep_iff (hsound : ∀ e ∈ events, e.Sound t) (hstart : survey.level ≤ n) :
    (∃ after, (t.scope extent n).performAll events survey =
        .error (.failed (.tooDeep label limit)) after) ↔
      limit = n ∧ ∃ before place tag rest after, events = before ++ .enter place tag :: rest ∧
        (t.scope extent n).performAll before survey = .ok () after ∧
        Event.opened survey.level before = n ∧ (t.blueprints.find? tag).isSome ∧
        label = place.path?.getD tag.name := by
  constructor
  · rintro ⟨after, h⟩
    obtain ⟨before, e, rest, mid, rfl, hbefore, hstop⟩ := exists_of_performAll_error h
    have he : e.Sound t := hsound e (by simp)
    have hopened : mid.level = Event.opened survey.level before := level_of_performAll_ok hbefore
    have hbound : (Survey.ending ((t.scope extent n).performAll before survey)).level ≤ n :=
      level_performAll_le hstart
    rw [hbefore, Survey.ending, hopened] at hbound
    cases e with
    | ask q => exact absurd (answer_of_ask_error hstop) (he.answer_ne label limit)
    | leave => cases hstop
    | enter place tag =>
      rw [perform_enter] at hstop
      split at hstop
      · next hdeep =>
        cases hstop
        have hdeep : n ≤ Event.opened survey.level before := hopened ▸ hdeep
        have hopened : Event.opened survey.level before = n := Nat.le_antisymm hbound hdeep
        exact ⟨rfl, before, place, tag, rest, _, rfl, hbefore, hopened, he, rfl⟩
      · cases hstop
  · rintro ⟨rfl, before, place, tag, rest, after, rfl, hbefore, hopened, -, rfl⟩
    have hdeep : (t.scope extent limit).limit ≤ after.level := by
      rw [level_of_performAll_ok hbefore, hopened]
      exact Nat.le_refl limit
    refine ⟨after, ?_⟩
    rw [performAll_append, hbefore]
    dsimp only
    rw [performAll_cons, perform_enter, if_pos hdeep]
    rfl

end Terrain

theorem Survey.outcome_congr {a b : SurveyM Unit} (h : a {} = b {}) : outcome a = outcome b := by
  unfold outcome
  rw [h]

/-- The outcome of a survey does not depend on the level where it ends. -/
theorem Survey.outcome_of_returned {a b : SurveyM Unit} {level : Nat}
    (h : a {} = returned level (b {})) : outcome a = outcome b := by
  unfold outcome
  rw [h]
  cases b {} with
  | ok u after => rfl
  | error stop after => cases stop <;> rfl

theorem Survey.outcome_eq_error_iff {a : SurveyM Unit} {f : Fault} :
    outcome a = .error f ↔ ∃ after, a {} = .error (.failed f) after := by
  unfold outcome
  constructor
  · intro h
    cases hend : a {} with
    | ok u after =>
      rw [hend] at h
      cases h
    | error stop after =>
      rw [hend] at h
      cases stop with
      | full => cases h
      | failed f' =>
        cases h
        exact ⟨after, rfl⟩
  · rintro ⟨after, h⟩
    rw [h]

namespace Inspector

/-- The inspector with another limit. -/
def limited (i : Inspector) (n : Nat) : Inspector :=
  { i with settings := { i.settings with maxDepth := n } }

/-- What happens in a survey of a record, as far as no limit cuts it. -/
def itinerary (i : Inspector) (now : Instant) (r : Record) : List Event :=
  (i.terrain now).rootItinerary r.tag r.fields

variable {i : Inspector} {now : Instant} {r : Record} {n m : Nat} {extent : Extent}

theorem checkRoot_limited :
    ((i.limited n).scope extent now).checkRoot r.tag r.fields {} =
      Survey.returned 0 (((i.limited n).scope extent now).performAll (i.itinerary now r) {}) :=
  ((i.terrain now).checkRoot_traverses extent n r.tag r.fields).apply_eq {}

theorem inspect_limited :
    (i.limited n).inspect extent now r =
      Survey.outcome (((i.limited n).scope extent now).performAll (i.itinerary now r)) :=
  Survey.outcome_of_returned checkRoot_limited

/-- A survey that does not get too deep is the same with a greater limit. -/
theorem inspect_limited_eq (h : n ≤ m)
    (hshallow : ∀ label limit, (i.limited n).inspect extent now r ≠ .error (.tooDeep label limit)) :
    (i.limited m).inspect extent now r = (i.limited n).inspect extent now r := by
  rcases (i.terrain now).performAll_limit_cases extent h (i.itinerary now r) {} with
    heq | ⟨label, after, hcut⟩
  · rw [inspect_limited, inspect_limited]
    exact Survey.outcome_congr heq
  · have hdeep : (i.limited n).inspect extent now r = .error (.tooDeep label n) :=
      inspect_limited.trans (Survey.outcome_eq_error_iff.mpr ⟨after, hcut⟩)
    exact absurd hdeep (hshallow label n)

theorem violation?_eq_error_iff {f : Fault} :
    i.violation? now r = .error f ↔ i.inspect .first now r = .error f := by
  unfold violation?
  cases i.inspect .first now r with
  | ok vs => exact ⟨nofun, nofun⟩
  | error f' => exact ⟨fun h => by cases h; rfl, fun h => by cases h; rfl⟩

/-- Whether a survey comes to a record, under a label and of a registered type, with as many
records open as the limit allows. -/
def ReachesLimit (i : Inspector) (now : Instant) (r : Record) (n : Nat) (extent : Extent)
    (label : String) : Prop :=
  ∃ before place tag rest after, i.itinerary now r = before ++ .enter place tag :: rest ∧
    ((i.limited n).scope extent now).performAll before {} = .ok () after ∧
    Event.opened 0 before = n ∧ i.isRegistered tag = true ∧ label = place.path?.getD tag.name

theorem inspect_tooDeep_iff {label : String} {limit : Nat} :
    (i.limited n).inspect extent now r = .error (.tooDeep label limit) ↔
      limit = n ∧ i.ReachesLimit now r n extent label := by
  rw [inspect_limited, Survey.outcome_eq_error_iff]
  exact Terrain.performAll_tooDeep_iff ((i.terrain now).sound_rootItinerary r.tag r.fields)
    (Nat.zero_le n)

/-- A survey of all violations comes to the limit if it comes to a record beyond it before
any fault. -/
theorem violations_tooDeep_of_enter {before rest : List Event} {place : Place} {tag : TypeTag}
    (hwalk : i.itinerary now r = before ++ .enter place tag :: rest)
    (hdeep : Event.opened 0 before = n)
    (hanswers : ∀ q, .ask q ∈ before → ∀ f, q.answer ≠ .error f) :
    ∃ label, (i.limited n).violations now r = .error (.tooDeep label n) := by
  rcases (i.terrain now).performAll_all_cases hanswers {} with
    ⟨after, hbefore⟩ | ⟨label, after, hbefore⟩
  · have hsound := (i.terrain now).sound_rootItinerary r.tag r.fields
    have htag := hsound (.enter place tag) (by rw [← itinerary, hwalk]; simp)
    exact ⟨_, inspect_tooDeep_iff.mpr
      ⟨rfl, before, place, tag, rest, after, hwalk, hbefore, hdeep, htag, rfl⟩⟩
  · have hcut : ((i.limited n).scope .all now).performAll (i.itinerary now r) {} =
        .error (.failed (.tooDeep label n)) after := by
      rw [hwalk]
      exact Scope.performAll_append_of_error hbefore _
    exact ⟨label, inspect_limited.trans (Survey.outcome_eq_error_iff.mpr ⟨after, hcut⟩)⟩

/-- A limit on the depth only cuts, and exactly where it is reached. A check performs the
itinerary of the record, which no limit changes, up to where it stops. It is the same with a
greater limit unless it gets too deep. It does so exactly if it comes to a record, of a
registered type, with the limit of records open, and then it names the limit and this
record; a check for all violations does so if it would come to such a record before any
fault. There are never more records open than the limit, and a check that leaves a record is
back at the level at which it came to it, whatever happened within. -/
theorem depth_limit_only_cuts (i : Inspector) (now : Instant) (r : Record) (n : Nat) :
    let walk := i.itinerary now r
    let scope (extent : Extent) := (i.limited n).scope extent now
    (∀ extent, (scope extent).checkRoot r.tag r.fields {} =
      Survey.returned 0 ((scope extent).performAll walk {})) ∧
    (∀ m, n ≤ m →
      ((∀ label limit, (i.limited n).violations now r ≠ .error (.tooDeep label limit)) →
        (i.limited m).violations now r = (i.limited n).violations now r) ∧
      ((∀ label limit, (i.limited n).violation? now r ≠ .error (.tooDeep label limit)) →
        (i.limited m).violation? now r = (i.limited n).violation? now r)) ∧
    (∀ label limit,
      ((i.limited n).violations now r = .error (.tooDeep label limit) ↔
        limit = n ∧ i.ReachesLimit now r n .all label) ∧
      ((i.limited n).violation? now r = .error (.tooDeep label limit) ↔
        limit = n ∧ i.ReachesLimit now r n .first label)) ∧
    (∀ before place tag rest, walk = before ++ .enter place tag :: rest →
      Event.opened 0 before = n → (∀ q, .ask q ∈ before → ∀ f, q.answer ≠ .error f) →
      ∃ label, (i.limited n).violations now r = .error (.tooDeep label n)) ∧
    (∀ extent before, before <+: walk →
      (Survey.ending ((scope extent).performAll before {})).level ≤ n ∧
      ∀ after, (scope extent).performAll before {} = .ok () after →
        after.level = Event.opened 0 before) ∧
    ∀ extent survey,
      (∀ path tag fields,
        (Survey.ending ((scope extent).descend path tag fields survey)).level = survey.level) ∧
      ∀ c nullable label value,
        (Survey.ending ((scope extent).check c nullable label value survey)).level =
          survey.level := by
  intro walk scope
  refine ⟨fun extent => checkRoot_limited, ?_, ?_, ?_, ?_, ?_⟩
  · intro m h
    refine ⟨inspect_limited_eq h, fun hshallow => ?_⟩
    simp only [ne_eq, violation?_eq_error_iff] at hshallow
    exact congrArg (·.map Violations.first?) (inspect_limited_eq h hshallow)
  · intro label limit
    exact ⟨inspect_tooDeep_iff, violation?_eq_error_iff.trans inspect_tooDeep_iff⟩
  · intro before place tag rest
    exact violations_tooDeep_of_enter
  · intro extent before _
    exact ⟨Scope.level_performAll_le (Nat.zero_le n), fun after => Scope.level_of_performAll_ok⟩
  · intro extent survey
    constructor
    · intro path tag fields
      exact ((i.terrain now).descend_traverses extent n path tag fields).level_ending survey
    · intro c nullable label value
      have hplace : (Place.labelled label).path? = some label := rfl
      exact ((i.terrain now).check_traverses extent n c nullable hplace value).level_ending survey

/-- A record type with two ways to go deeper. -/
def fork : RecordType where
  tag := ⟨4, "Fork"⟩
  fields := [
    .checked "left" (.option (.boxed (.record ⟨4, "Fork"⟩))) "dive",
    .checked "right" (.option (.boxed (.record ⟨4, "Fork"⟩))) "dive",
    .checked "name" .text "req"]

/-- Two records within a third one are cut off by a limit of one level. With two levels or
more, both are entered, one after the other. -/
theorem depth_limit_only_cuts_fork :
    let prong : Value := .just (.record ⟨4, "Fork"⟩ [.null, .null, .text ""])
    let r : Record := ⟨⟨4, "Fork"⟩, [prong, prong, .text "a"]⟩
    ∃ i, register {} fork = .ok i ∧
      (i.limited 1).violations ⟨0⟩ r = .error (.tooDeep "left" 1) ∧
      i.ReachesLimit ⟨0⟩ r 1 .all "left" ∧
      ∀ m, 2 ≤ m →
        (i.limited m).violations ⟨0⟩ r = .ok ⟨[.required "left.name", .required "right.name"]⟩ := by
  intro prong r
  obtain ⟨i, hregister⟩ : ∃ i, register {} fork = .ok i := (isSome_toOption _).mp (by cbv)
  have hone : (i.limited 1).violations ⟨0⟩ r = .error (.tooDeep "left" 1) := by
    obtain ⟨-, -, rfl⟩ := register_eq_ok_iff.mp hregister
    cbv
  have htwo : (i.limited 2).violations ⟨0⟩ r =
      .ok ⟨[.required "left.name", .required "right.name"]⟩ := by
    obtain ⟨-, -, rfl⟩ := register_eq_ok_iff.mp hregister
    cbv
  obtain ⟨-, -, hdeep, -, -, -⟩ := depth_limit_only_cuts i ⟨0⟩ r 1
  obtain ⟨-, hcut, -, -, -, -⟩ := depth_limit_only_cuts i ⟨0⟩ r 2
  refine ⟨i, hregister, hone, ((hdeep "left" 1).1.mp hone).2, fun m hm => ?_⟩
  have hshallow : ∀ label limit, (i.limited 2).violations ⟨0⟩ r ≠ .error (.tooDeep label limit) := by
    intro label limit h
    rw [htwo] at h
    cases h
  rw [(hcut m hm).1 hshallow, htwo]

end Inspector

end RecordValidation
