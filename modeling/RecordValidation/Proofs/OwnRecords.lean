import RecordValidation.Proofs.History
import RecordValidation.Proofs.Provenance

/-!
Records meet the blueprints of their own types only. Whatever a session sets up, the
blueprint under a tag was made from the type of that tag, and its plans and rules are for
records of that type. So the tests that guard plans and rules against records of another
type never fail, also where a field holds another record than it declares, or types share
their name.
-/

namespace RecordValidation

/-- A type with the name of another one. -/
def RecordType.namesake : RecordType where
  tag := ⟨2, "User"⟩
  fields := [.checked "id" (.integer (.signed 32)) "min:1"]

/-- A record with one of the namesake type in it, where it declares one of its own. -/
def Record.namesake : Record where
  tag := RecordType.user.tag
  fields := [.text "Eva", .sequence [], .just (.record RecordType.namesake.tag [.integer 7]), .inert]

/-- The blueprint of an enrolment is the compiled type, with the rules for its records. -/
theorem Enrolment.ofType_eq_ok {e : Enrolment}
    (h : ∀ decl ∈ e.type.fields, decl.Accepted e.lexicon) :
    Blueprint.ofType e.lexicon e.type = .ok { e.blueprint with recordRules := [] } :=
  bind_eq_ok_iff.mpr ⟨_, Blueprint.compileFields_eq_ok_iff.mpr ⟨h, rfl⟩, rfl⟩

theorem Enrolment.owner_of_mem_fields {e : Enrolment} {plan : FieldPlan}
    (h : plan ∈ e.blueprint.fields) : plan.owner = e.type.tag := by
  obtain ⟨decl, -, rfl⟩ := List.mem_map.mp h
  cases decl <;> rfl

theorem OwnedRule.apply_of_owner {rule : OwnedRule} {tag : TypeTag} (h : rule.owner = tag)
    (fields : List Value) : rule.apply tag fields = rule.rule fields := by
  rw [apply, if_pos h.symm]

namespace Inspector

variable {settings : Settings} {now : Instant} {steps : List Step} {tag : TypeTag}
  {b : Blueprint}

theorem owner_of_mem_fields (h : (after settings now steps).blueprints.find? tag = some b)
    {plan : FieldPlan} (hplan : plan ∈ b.fields) : plan.owner = tag := by
  obtain ⟨reg, rfl⟩ := exists_registration h
  exact (Enrolment.owner_of_mem_fields hplan).trans reg.tag_eq

theorem owner_of_mem_recordRules (h : (after settings now steps).blueprints.find? tag = some b)
    {rule : OwnedRule} (hrule : rule ∈ b.recordRules) : rule.owner = tag := by
  obtain ⟨reg, rfl⟩ := exists_registration h
  obtain ⟨_, -, rfl⟩ := List.mem_map.mp hrule
  exact reg.tag_eq

theorem record_answer_eq_error_apply {place : Place} {fields : List Value} {model : String}
    {rule : OwnedRule} {f : Fault}
    (h : (Inquiry.record place tag fields model rule).answer = .error f) :
    ∃ source, rule.apply tag fields = .error source ∧ f = .recordRule model source := by
  simp only [Inquiry.answer] at h
  cases hrule : rule.apply tag fields with
  | ok found =>
    rw [hrule] at h
    cases found <;> cases h
  | error source =>
    rw [hrule] at h
    cases h
    exact ⟨source, rfl, rfl⟩

/-- No inquiry is answered with a complaint about a record of another type, neither by the
survey nor by a rule for whole records before it gets to work. -/
theorem fault_of_answer {time : Instant} {r : Record} {q : Inquiry} {f : Fault}
    (hq : q ∈ ((after settings now steps).terrain time).root r.tag 0 r.fields)
    (h : q.answer = .error f) :
    (∀ label model, f ≠ .foreignRecord label model) ∧
      ∀ model source, f = .recordRule model source →
        ∃ tag b rule fields, (after settings now steps).blueprints.find? tag = some b ∧
          b.name = model ∧ ⟨tag, rule⟩ ∈ b.recordRules ∧ rule fields = .error source := by
  cases origin_of_mem_root hq with
  | value hprompts =>
    cases hprompts with
    | absent hvalue habsent => cases h
    | builtin hvalue hg seg hv => cases h
    | custom hvalue hbinds =>
      obtain ⟨source, -, rfl⟩ := Inquiry.custom_answer_eq_error h
      exact ⟨nofun, nofun⟩
    | mismatch expected found =>
      cases h
      exact ⟨nofun, nofun⟩
    | unregistered hnew =>
      cases h
      exact ⟨nofun, nofun⟩
    | tooDeep label =>
      cases h
      exact ⟨nofun, nofun⟩
  | @record tag b rule hb hrule place fields =>
    obtain ⟨source, happly, rfl⟩ := record_answer_eq_error_apply h
    obtain ⟨owner, rule⟩ := rule
    obtain rfl : owner = tag := owner_of_mem_recordRules hb hrule
    refine ⟨nofun, fun model source' hf => ?_⟩
    cases hf
    rw [OwnedRule.apply_of_owner rfl] at happly
    exact ⟨owner, b, rule, fields, hb, rfl, hrule, happly⟩
  | foreign hb hplan howner place f => exact absurd (owner_of_mem_fields hb hplan) howner

/-- In every session, what is known about a type was made from this type. Its plans and its
rules are for records of the type, and are applied to no others. Hence no check complains
of another record type, and where a rule for whole records fails, it fails by itself. -/
theorem records_meet_own_blueprints (settings : Settings) (now : Instant) (steps : List Step) :
    let i := after settings now steps
    (∀ tag b, i.blueprints.find? tag = some b →
      ∃ reg : Registration settings now steps tag,
        Blueprint.ofType reg.enrolment.lexicon reg.type = .ok { b with recordRules := [] } ∧
        b.recordRules = (reg.later.filterMap (·.recordRule? tag)).map (⟨tag, ·⟩) ∧
        ∀ plan ∈ b.fields, plan.owner = tag) ∧
    (∀ time r b place tag level fields,
      i.Reaches time r (.record b place tag level fields) →
        i.blueprints.find? tag = some b ∧ ∀ rule ∈ b.recordRules,
          rule.apply tag fields = rule.rule fields) ∧
    (∀ time label model, ¬i.Ends time (.foreignRecord label model)) ∧
    ∀ time model source, i.Ends time (.recordRule model source) →
      ∃ tag b rule fields, i.blueprints.find? tag = some b ∧ b.name = model ∧
        ⟨tag, rule⟩ ∈ b.recordRules ∧ rule fields = .error source := by
  intro i
  refine ⟨?_, ?_, ?_, ?_⟩
  · intro tag b h
    obtain ⟨reg, rfl⟩ := exists_registration h
    have hrules : reg.enrolment.blueprint.recordRules =
        (reg.later.filterMap (·.recordRule? tag)).map (⟨reg.type.tag, ·⟩) := rfl
    rw [reg.tag_eq] at hrules
    exact ⟨reg, Enrolment.ofType_eq_ok reg.accepted, hrules, fun plan => owner_of_mem_fields h⟩
  · intro time r b place tag level fields hreach
    have hb : i.blueprints.find? tag = some b := Stage.founded_of_reaches hreach
    refine ⟨hb, fun rule hrule => ?_⟩
    exact OwnedRule.apply_of_owner (owner_of_mem_recordRules hb hrule) fields
  · intro time label model h
    rcases h.cases with ⟨found, hf⟩ | ⟨r, q, hq, hanswer⟩
    · cases hf
    · exact (fault_of_answer hq hanswer).1 label model rfl
  · intro time model source h
    rcases h.cases with ⟨found, hf⟩ | ⟨r, q, hq, hanswer⟩
    · cases hf
    · exact (fault_of_answer hq hanswer).2 model source rfl

/-- The failure is that of the rule for the records of the namesake, although one of these
stands where a record of the other type is declared. -/
theorem records_meet_own_blueprints_namesake :
    let i := after {} ⟨0⟩ [.register .user, .register .namesake,
      .addRecordRule RecordType.namesake.tag fun _ => .error ⟨"out of order"⟩]
    i.violations ⟨0⟩ .namesake = .error (.recordRule "User" ⟨"out of order"⟩) ∧
    (∃ tag b rule fields, i.blueprints.find? tag = some b ∧ b.name = "User" ∧
      ⟨tag, rule⟩ ∈ b.recordRules ∧ rule fields = .error ⟨"out of order"⟩) ∧
    ∃ b, i.blueprints.find? RecordType.namesake.tag = some b ∧
      ∀ plan ∈ b.fields, plan.owner = RecordType.namesake.tag := by
  let steps : List Step := [.register .user, .register .namesake,
    .addRecordRule RecordType.namesake.tag fun _ => .error ⟨"out of order"⟩]
  have hviolations : (after {} ⟨0⟩ steps).violations ⟨0⟩ .namesake =
      .error (.recordRule "User" ⟨"out of order"⟩) := by cbv
  have hregistered :
      ((after {} ⟨0⟩ steps).blueprints.find? RecordType.namesake.tag).isSome = true := by cbv
  obtain ⟨hmade, -, -, hfails⟩ := records_meet_own_blueprints {} ⟨0⟩ steps
  obtain ⟨b, hb⟩ := Option.isSome_iff_exists.mp hregistered
  obtain ⟨reg, -, -, howner⟩ := hmade RecordType.namesake.tag b hb
  exact ⟨hviolations, hfails ⟨0⟩ "User" ⟨"out of order"⟩ (.violations hviolations), b, hb, howner⟩

end Inspector

end RecordValidation
