import RecordValidation.Proofs.Codes
import RecordValidation.Proofs.Epoch
import RecordValidation.Proofs.Nesting

/-!
No check reports twice, and where a value is missing nothing else is reported. Any two
inquiries of a survey agree with each other: two built-in checks at one place have different
codes, and what is asked besides that a value is required is asked elsewhere. There is one
exception. The rules before the dive of an optional scalar are asked when the optional is
there, though what it holds may count as missing.
-/

namespace RecordValidation

/-- The inquiries that can stand in a survey in which a value is missing at a place: those at
places that do not lie in it, those about whole records, and those by rules before the dive
of an optional scalar. -/
inductive Inquiry.Spared (missing : Place) : Inquiry → Prop
  | outside {q : Inquiry} (h : ¬missing.Spans q.place) : Spared missing q
  | head (value : Value) (rule : NamedRule) : Spared missing (.custom missing value .pointer rule)
  | record (place : Place) (tag : TypeTag) (fields : List Value) (model : String)
      (rule : OwnedRule) : Spared missing (.record place tag fields model rule)
  | refusal (place : Place) (f : Fault) : Spared missing (.refusal place f)

/-- Two inquiries that can stand in one survey. -/
structure Inquiry.Agree (q q' : Inquiry) : Prop where
  alone : ∀ place value, q = .required place value → q'.Spared place
  alone' : ∀ place value, q' = .required place value → q.Spared place
  once : ∀ place value value' v v', q = .builtin place value v →
    q' = .builtin place value' v' → v.code ≠ v'.code

namespace Inquiry

variable {place : Place} {q q' : Inquiry}

theorem Agree.symm (h : q.Agree q') : q'.Agree q where
  alone := h.alone'
  alone' := h.alone
  once place value value' v v' hq hq' := (h.once place value' value v' v hq' hq).symm

theorem PutAt.place_eq (h : q.PutAt place) : q.place = place := by
  cases h <;> rfl

theorem spared_of_value? (h : q.value? = none) (missing : Place) : q.Spared missing := by
  cases q with
  | record place tag fields model rule => exact .record place tag fields model rule
  | refusal place f => exact .refusal place f
  | required | builtin | custom => cases h

/-- Rules for whole records and refusals agree with everything. -/
theorem agree_of_value? (q : Inquiry) (h : q'.value? = none) : q.Agree q' where
  alone place _ _ := spared_of_value? h place
  alone' place value hq' := by
    rw [hq'] at h
    cases h
  once place value value' v v' _ hq' := by
    rw [hq'] at h
    cases h

/-- Inquiries within places that have nothing in common agree. -/
theorem agree_of_disjoint {a b : Place} (hq : a.Spans q.place) (hq' : b.Spans q'.place)
    (hdisjoint : ∀ p, a.Spans p → ¬b.Spans p) : q.Agree q' where
  alone place value h := by
    subst h
    exact .outside fun hspans => hdisjoint _ (hq.trans hspans) hq'
  alone' place value h := by
    subst h
    exact .outside fun hspans => hdisjoint _ hq (hq'.trans hspans)
  once place value value' v v' h h' := by
    subst h h'
    exact absurd hq' (hdisjoint place hq)

/-- What is asked about a value that is there agrees with what is asked further within. -/
theorem agree_of_within (hpresent : ∀ p value, q ≠ .required p value)
    (hdepth : q.place.depth < q'.place.depth) : q.Agree q' where
  alone place value h := absurd h (hpresent place value)
  alone' place value h := by
    subst h
    exact .outside fun hspans => absurd hspans.depth_le (Nat.not_le.mpr hdepth)
  once place value value' v v' h h' := by
    subst h h'
    exact absurd hdepth (lt_irrefl _)

/-- A rule agrees with what does not report that a value is missing. -/
theorem agree_custom {value : Value} {station : Station} {rule : NamedRule}
    (hpresent : ∀ p value, q ≠ .required p value) :
    q.Agree (.custom place value station rule) where
  alone place value h := absurd h (hpresent place value)
  alone' _ _ := nofun
  once _ _ _ _ _ _ := nofun

/-- A rule before the dive of an optional scalar agrees with what is asked at its place. -/
theorem agree_head {value : Value} {rule : NamedRule} (hput : q.PutAt place) :
    (Inquiry.custom place value .pointer rule).Agree q where
  alone _ _ := nofun
  alone' p value h := by
    subst h
    cases hput
    exact .head _ rule
  once _ _ _ _ _ := nofun

end Inquiry

/-- The built-in checks of a level have different codes. -/
theorem Segment.codes_failures_sublist {β α : Type} (s : Segment β α) (g : Gauge β α)
    (label : String) :
    ((s.failures g label).map (·.code)).Sublist [Violation.greatestCode, Violation.leastCode,
      Violation.patternCode, Violation.memberCode] := by
  have hcheck : ∀ {γ : Type} (found : Option γ) (text : γ → String) (code : String),
      (((found.map fun x => violation label (text x) code).toList).map (·.code)).Sublist [code] := by
    intro γ found text code
    cases found with
    | none => exact List.nil_sublist _
    | some x => exact List.Sublist.refl _
  simp only [failures, List.map_append]
  exact (((hcheck _ _ _).append (hcheck _ _ _)).append (hcheck _ _ _)).append (hcheck _ _ _)

namespace Inquiry

variable {t : Terrain} {place : Place}

theorem pairwise_absence (required : Bool) (value : Value) :
    (ofAbsence required place value).Pairwise Agree := by
  cases required with
  | false => exact .nil
  | true => exact List.pairwise_singleton _ _

theorem pairwise_mismatch (expected : Kind) (found : Value) :
    (ofMismatch place expected found).Pairwise Agree :=
  List.pairwise_singleton _ _

theorem ne_required_of_mem_rules {value : Value} {station : Station} {rules : List NamedRule}
    {q : Inquiry} (h : q ∈ ofRules place value station rules) (p : Place) (value' : Value) :
    q ≠ .required p value' := by
  obtain ⟨rule, -, rfl⟩ := List.mem_map.mp h
  exact nofun

theorem pairwise_rules (value : Value) (station : Station) (rules : List NamedRule) :
    (ofRules place value station rules).Pairwise Agree := by
  refine List.pairwise_map.mpr (List.pairwise_of_forall fun rule rule' => ?_)
  exact agree_custom fun _ _ => nofun

theorem ne_required_of_mem_segment {β α : Type} {station : Station} {seg : Segment β α}
    {g : Gauge β α} {value : Value} {q : Inquiry} (h : q ∈ ofSegment station seg g place value)
    (p : Place) (value' : Value) : q ≠ .required p value' := by
  rcases List.mem_append.mp h with h | h
  · obtain ⟨v, -, rfl⟩ := List.mem_map.mp h
    exact nofun
  · exact ne_required_of_mem_rules h p value'

theorem pairwise_segment {β α : Type} (station : Station) (seg : Segment β α) (g : Gauge β α)
    (value : Value) : (ofSegment station seg g place value).Pairwise Agree := by
  have hcodes : ((seg.failures g place.label).map (·.code)).Nodup :=
    (seg.codes_failures_sublist g place.label).nodup (by decide)
  refine List.pairwise_append.mpr ⟨?_, pairwise_rules value station seg.custom, ?_⟩
  · refine List.pairwise_map.mpr ((List.pairwise_map.mp hcodes).imp fun hne => ?_)
    refine ⟨fun _ _ => nofun, fun _ _ => nofun, ?_⟩
    intro p value value' v v' hq hq'
    cases hq
    cases hq'
    exact hne
  · intro q hq q' hq'
    obtain ⟨v, -, rfl⟩ := List.mem_map.mp hq
    obtain ⟨rule, -, rfl⟩ := List.mem_map.mp hq'
    exact agree_custom fun _ _ => nofun

theorem pairwise_scalar (target : ScalarConstraint) (value : Value) :
    (t.scalar place target value).Pairwise Agree := by
  cases target <;> cases value <;>
    first
    | exact pairwise_segment _ _ _ _
    | exact pairwise_mismatch _ _

theorem pairwise_ifPresent (target : ScalarConstraint) (nullable : Bool) (value : Value) :
    (t.ifPresent place target nullable value).Pairwise Agree := by
  unfold Terrain.ifPresent
  cases value.present? nullable with
  | none => exact pairwise_absence target.required value
  | some present => exact pairwise_scalar target present

theorem pairwise_pointer (head : Segment Empty Empty) (target : ScalarConstraint) (value : Value) :
    (t.pointer place head target value).Pairwise Agree := by
  have happend : ∀ value inner, (ofRules place value .pointer head.custom ++
      t.ifPresent place target false inner).Pairwise Agree := by
    intro value inner
    refine List.pairwise_append.mpr
      ⟨pairwise_rules value .pointer head.custom, pairwise_ifPresent target false inner, ?_⟩
    intro q hq q' hq'
    obtain ⟨rule, -, rfl⟩ := List.mem_map.mp hq
    exact agree_head (putAt_ifPresent target false inner q' hq')
  cases value with
  | null => exact pairwise_absence head.required .null
  | _ => exact happend _ _

theorem pairwise_plain (c : Constraint) (nullable : Bool) (value : Value) :
    (t.plain nullable place value c).Pairwise Agree := by
  cases c with
  | unchecked => exact .nil
  | scalar target => exact pairwise_ifPresent target nullable value
  | pointer head target => exact pairwise_pointer head target value
  | sequence head element =>
    unfold Terrain.plain
    cases value.present? nullable with
    | none => exact pairwise_absence head.required value
    | some present => exact pairwise_mismatch .sequence present
  | record head =>
    unfold Terrain.plain
    cases value.present? nullable with
    | none => exact pairwise_absence head.required value
    | some present => exact pairwise_mismatch .record present

end Inquiry

namespace Terrain

open Inquiry

variable {t : Terrain} {place : Place} {level : Nat} {q q' : Inquiry}

theorem spans_of_mem_elements {c : Constraint} {start : Nat} {items : List Value}
    (h : q ∈ t.elements c place start level items) :
    ∃ index, start ≤ index ∧ (place.element index).Spans q.place := by
  obtain ⟨index, item, -, hq⟩ := mem_elements_iff.mp h
  obtain ⟨p, hspans, hput⟩ := spans_of_mem_agenda hq
  exact ⟨start + index, Nat.le_add_right start index, hput.place_eq.symm ▸ hspans⟩

theorem spans_of_mem_fields {b : Blueprint} {tag : TypeTag} {values : List Value}
    {plans : List FieldPlan} (h : q ∈ t.fields b place tag level values plans) :
    ∃ plan ∈ plans, (place.field plan.name).Spans q.place := by
  obtain ⟨index, v, plan, -, hplan, ⟨-, hq⟩ | ⟨-, -, rfl⟩⟩ := mem_fields_iff.mp h
  · obtain ⟨p, hspans, hput⟩ := spans_of_mem_agenda hq
    exact ⟨plan, List.mem_of_getElem? hplan, hput.place_eq.symm ▸ hspans⟩
  · exact ⟨plan, List.mem_of_getElem? hplan, .refl⟩

theorem pairwise_entry {tag : TypeTag} {body : Blueprint → List Inquiry}
    (hbody : ∀ b, t.blueprints.find? tag = some b → (body b).Pairwise Agree) :
    (t.entry place tag level body).Pairwise Agree := by
  unfold entry
  cases hb : t.blueprints.find? tag with
  | none => exact List.pairwise_singleton _ _
  | some b =>
    dsimp only
    split
    · exact List.pairwise_singleton _ _
    · exact hbody b hb

theorem pairwise_append_recordRules {l : List Inquiry} (h : l.Pairwise Agree) (b : Blueprint)
    (tag : TypeTag) (fields : List Value) :
    (l ++ ofRecordRules b place tag fields).Pairwise Agree := by
  refine List.pairwise_append.mpr ⟨h, ?_, ?_⟩
  · refine List.pairwise_map.mpr (List.pairwise_of_forall fun rule rule' => ?_)
    exact agree_of_value? _ rfl
  · intro q _ q' hq'
    obtain ⟨rule, -, rfl⟩ := List.mem_map.mp hq'
    exact agree_of_value? q rfl

/-- What is asked about a sequence agrees with what is asked about its elements, which lie
deeper than the sequence. -/
theorem agree_of_mem_elements (hplace : q.place = place)
    (hpresent : ∀ p value, q ≠ .required p value) {c : Constraint} {start : Nat}
    {items : List Value} (h : q' ∈ t.elements c place start level items) : q.Agree q' := by
  obtain ⟨index, -, hspans⟩ := spans_of_mem_elements h
  have hdepth : place.depth + 1 ≤ q'.place.depth := hspans.depth_le
  exact agree_of_within hpresent (hplace ▸ hdepth)

/-- What is asked about a record before it is entered agrees with what is asked from there on,
about its fields and by the rules of its type. -/
theorem agree_of_mem_entry (hplace : q.place = place)
    (hpresent : ∀ p value, q ≠ .required p value) {tag : TypeTag} {fields : List Value}
    (h : q' ∈ t.entry place tag level fun b =>
      t.fields b place tag (level + 1) fields b.fields ++ ofRecordRules b place tag fields) :
    q.Agree q' := by
  rcases mem_entry_iff.mp h with h | ⟨b, -, -, h⟩
  · rcases Inspector.refusal_of_mem_entry h with ⟨-, rfl⟩ | rfl <;> exact agree_of_value? q rfl
  · rcases List.mem_append.mp h with h | h
    · obtain ⟨plan, -, hspans⟩ := spans_of_mem_fields h
      have hdepth : place.depth + 1 ≤ q'.place.depth := hspans.depth_le
      exact agree_of_within hpresent (hplace ▸ hdepth)
    · obtain ⟨rule, -, rfl⟩ := List.mem_map.mp h
      exact agree_of_value? q rfl

/-- Terrains in which no two fields of a type have the same name. -/
def DistinctNames (t : Terrain) : Prop :=
  ∀ {tag b}, t.blueprints.find? tag = some b → b.fieldNames.Nodup

mutual

/-- Any two inquiries into a value agree. By induction over the value: those into one part of it
do, and those into different parts lie in places that have nothing in common. -/
theorem pairwise_agenda (hnames : t.DistinctNames) (c : Constraint) (nullable : Bool)
    (place : Place) (level : Nat) :
    (value : Value) → (t.agenda c nullable place level value).Pairwise Agree
  | .just inner => by
    cases c with
    | unchecked =>
      simp only [agenda]
      exact .nil
    | pointer head target =>
      simp only [agenda]
      exact pairwise_pointer head target (.just inner)
    | scalar _ | sequence _ _ | record _ =>
      simp only [agenda]
      exact pairwise_agenda hnames _ true place level inner
  | .sequence items => by
    cases c with
    | sequence head element =>
      simp only [agenda]
      refine List.pairwise_append.mpr
        ⟨pairwise_segment .sequence head _ _,
          pairwise_elements hnames element place 0 level items, ?_⟩
      intro q hq q' hq'
      have hplace := (putAt_segment _ _ _ _ q hq).place_eq
      exact agree_of_mem_elements hplace (ne_required_of_mem_segment hq) hq'
    | unchecked | scalar _ | pointer _ _ | record _ =>
      simp only [agenda]
      exact pairwise_plain _ nullable _
  | .record tag fields => by
    cases c with
    | record head =>
      simp only [agenda]
      refine List.pairwise_append.mpr ⟨pairwise_rules _ .record head.custom, ?_, ?_⟩
      · refine pairwise_entry fun b hb => pairwise_append_recordRules ?_ b tag fields
        exact pairwise_fields hnames b place tag (level + 1) fields b.fields (hnames hb)
      · intro q hq q' hq'
        have hplace := (putAt_rules _ _ _ q hq).place_eq
        exact agree_of_mem_entry hplace (ne_required_of_mem_rules hq) hq'
    | unchecked | scalar _ | pointer _ _ | sequence _ _ =>
      simp only [agenda]
      exact pairwise_plain _ nullable _
  | .text _ | .integer _ | .float _ | .time _ | .null | .inert => by
    simp only [agenda]
    exact pairwise_plain c nullable _

theorem pairwise_elements (hnames : t.DistinctNames) (c : Constraint) (place : Place)
    (start level : Nat) :
    (items : List Value) → (t.elements c place start level items).Pairwise Agree
  | [] => by
    simp only [elements]
    exact .nil
  | item :: rest => by
    simp only [elements]
    refine List.pairwise_append.mpr
      ⟨pairwise_agenda hnames c false (place.element start) level item,
        pairwise_elements hnames c place (start + 1) level rest, ?_⟩
    intro q hq q' hq'
    obtain ⟨p, hspans, hput⟩ := spans_of_mem_agenda hq
    obtain ⟨index, hindex, hspans'⟩ := spans_of_mem_elements hq'
    rw [← hput.place_eq] at hspans
    refine agree_of_disjoint hspans hspans' fun p hp hp' => ?_
    have heq := hp.element_inj hp'
    omega

theorem pairwise_fields (hnames : t.DistinctNames) (b : Blueprint) (place : Place)
    (tag : TypeTag) (level : Nat) :
    (values : List Value) → (plans : List FieldPlan) → (plans.map (·.name)).Nodup →
      (t.fields b place tag level values plans).Pairwise Agree
  | [], plans, _ => by
    simp only [fields]
    exact .nil
  | _ :: _, [], _ => by
    simp only [fields]
    exact .nil
  | value :: values, plan :: plans, hnodup => by
    obtain ⟨hplan, hplans⟩ := List.nodup_cons.mp hnodup
    have hfirst : t.fields b place tag level [value] [plan] =
        if plan.constraint.isUnchecked then []
        else if tag ≠ plan.owner then [.refusal (place.field plan.name)
          (.foreignRecord (place.field plan.name).label b.name)]
        else t.agenda plan.constraint false (place.field plan.name) level value := by
      simp only [fields, List.append_nil]
    simp only [fields]
    refine List.pairwise_append.mpr
      ⟨?_, pairwise_fields hnames b place tag level values plans hplans, ?_⟩
    · split
      · exact .nil
      · split
        · exact List.pairwise_singleton _ _
        · exact pairwise_agenda hnames plan.constraint false (place.field plan.name) level value
    · intro q hq q' hq'
      rw [← hfirst] at hq
      obtain ⟨plan', hplan', hspans⟩ := spans_of_mem_fields hq
      cases List.mem_singleton.mp hplan'
      obtain ⟨other, hother, hspans'⟩ := spans_of_mem_fields hq'
      refine agree_of_disjoint hspans hspans' fun p hp hp' => hplan ?_
      exact List.mem_map.mpr ⟨other, hother, (hp.field_inj hp').symm⟩

end

theorem pairwise_root (hnames : t.DistinctNames) (tag : TypeTag) (fields : List Value) :
    (t.root tag level fields).Pairwise Agree := by
  refine pairwise_entry fun b hb => pairwise_append_recordRules ?_ b tag fields
  exact pairwise_fields hnames b .root tag (level + 1) fields b.fields (hnames hb)

end Terrain

namespace Transcript

theorem map_reports_sublist (l : List Inquiry) : ((reports l).map (·.1)).Sublist l := by
  induction l with
  | nil => exact List.Sublist.refl _
  | cons q rest ih =>
    rw [reports]
    cases q.answer with
    | error f => exact List.nil_sublist _
    | ok found =>
      cases found with
      | none => exact ih.cons q
      | some v => exact ih.cons_cons q

end Transcript

namespace Inquiry

variable {t : Terrain} {place place' : Place} {value : Value} {station : Station} {rule : NamedRule}

theorem station_of_mem_segment {β α : Type} {station' : Station} {seg : Segment β α}
    {g : Gauge β α} {value' : Value}
    (h : .custom place value station rule ∈ ofSegment station' seg g place' value') :
    station = station' := by
  rcases List.mem_append.mp h with h | h
  · obtain ⟨v, -, hv⟩ := List.mem_map.mp h
    cases hv
  · obtain ⟨r, -, hr⟩ := List.mem_map.mp h
    cases hr
    rfl

theorem not_mem_absence {required : Bool} {value' : Value} :
    .custom place value station rule ∉ ofAbsence required place' value' := by
  intro h
  cases required with
  | false => cases h
  | true => cases List.mem_singleton.mp h

theorem not_mem_mismatch {expected : Kind} {found : Value} :
    .custom place value station rule ∉ ofMismatch place' expected found := by
  intro h
  cases List.mem_singleton.mp h

theorem station_of_mem_scalar {target : ScalarConstraint} {present : Value}
    (h : .custom place value station rule ∈ t.scalar place' target present) :
    station = target.station := by
  cases target <;> cases present <;>
    first
    | exact station_of_mem_segment h
    | exact absurd h not_mem_mismatch

theorem station_of_mem_ifPresent {target : ScalarConstraint} {nullable : Bool} {value' : Value}
    (h : .custom place value station rule ∈ t.ifPresent place' target nullable value') :
    station = target.station := by
  unfold Terrain.ifPresent at h
  cases hpresent : value'.present? nullable with
  | none =>
    rw [hpresent] at h
    exact absurd h not_mem_absence
  | some present =>
    rw [hpresent] at h
    exact station_of_mem_scalar h

theorem mem_head_of_mem_pointer {head : Segment Empty Empty} {target : ScalarConstraint}
    {value' : Value} (h : .custom place value .pointer rule ∈ t.pointer place' head target value') :
    rule ∈ head.custom := by
  have hhead : ∀ {value' inner}, .custom place value .pointer rule ∈
      ofRules place' value' .pointer head.custom ++ t.ifPresent place' target false inner →
        rule ∈ head.custom := by
    intro value' inner h
    rcases List.mem_append.mp h with h | h
    · obtain ⟨r, hr, heq⟩ := List.mem_map.mp h
      cases heq
      exact hr
    · have hstation := station_of_mem_ifPresent h
      cases target <;> cases hstation
  cases value' with
  | null => exact absurd h not_mem_absence
  | _ => exact hhead h

theorem mem_head_of_mem_plain {c : Constraint} {nullable : Bool} {value' : Value}
    (h : .custom place value .pointer rule ∈ t.plain nullable place' value' c) :
    ∃ head target, c = .pointer head target ∧ rule ∈ head.custom := by
  cases c with
  | unchecked => cases h
  | scalar target =>
    have hstation := station_of_mem_ifPresent h
    cases target <;> cases hstation
  | pointer head target => exact ⟨head, target, rfl, mem_head_of_mem_pointer h⟩
  | sequence | record =>
    unfold Terrain.plain at h
    dsimp only at h
    split at h
    · exact absurd h not_mem_absence
    · exact absurd h not_mem_mismatch

/-- A rule of an optional scalar itself stands before the dive of its annotation. -/
theorem mem_head_of_mem_own {c : Constraint} {nullable : Bool} {level : Nat} {outer : Value}
    (h : .custom place value .pointer rule ∈ (Stage.value c nullable place' level outer).own t) :
    ∃ head target, c = .pointer head target ∧ rule ∈ head.custom := by
  have hplain : .custom place value .pointer rule ∈ t.plain nullable place' outer c →
      ∃ head target, c = .pointer head target ∧ rule ∈ head.custom := mem_head_of_mem_plain
  cases c with
  | pointer head target => exact ⟨head, target, rfl, mem_head_of_mem_pointer h⟩
  | sequence head element =>
    cases outer with
    | just inner => cases h
    | sequence items => cases station_of_mem_segment h
    | _ => exact hplain h
  | record head =>
    cases outer with
    | just inner => cases h
    | record tag fields =>
      rcases List.mem_append.mp h with h | h
      · obtain ⟨r, -, hr⟩ := List.mem_map.mp h
        cases hr
      · rcases Inspector.refusal_of_mem_entry h with ⟨-, hq⟩ | hq <;> cases hq
    | _ => exact hplain h
  | _ =>
    cases outer with
    | just inner => cases h
    | _ => exact hplain h

end Inquiry

namespace Inspector

/-- Whether an inquiry is put by a rule before the dive of an optional scalar. -/
def FromHead (i : Inspector) (now : Instant) (r : Record) (q : Inquiry) : Prop :=
  ∃ head target nullable place level outer value rule,
    i.Reaches now r (.value (.pointer head target) nullable place level outer) ∧
      rule ∈ head.custom ∧ q = .custom place value .pointer rule

variable {i : Inspector} {now time : Instant} {r : Record} {q q' : Inquiry} {v v' : Violation}
  {settings : Settings} {steps : List Step}

theorem pairwise_reports (hnames : i.PlainNames) (now : Instant) (r : Record) :
    (Transcript.reports ((i.terrain now).root r.tag 0 r.fields)).Pairwise
      fun x y => x.1.Agree y.1 := by
  have hdistinct : (i.terrain now).DistinctNames := by
    intro tag b hb
    have hfields : i.fieldNames? tag = some b.fieldNames := by
      rw [fieldNames?, show i.blueprints.find? tag = some b from hb, Option.map_some]
    exact hnames.nodup hfields
  have hroot : ((i.terrain now).root r.tag 0 r.fields).Pairwise Inquiry.Agree :=
    Terrain.pairwise_root hdistinct r.tag r.fields
  exact List.pairwise_map.mp (hroot.sublist (Transcript.map_reports_sublist _))

/-- Only the library reports under the code of values that are missing, if no rule has the code
for its name. -/
theorem Cause.eq_required (h : (after settings now steps).Cause time q v)
    (hnone : Violation.requiredCode ∉ (after settings now steps).ruleNames)
    (hcode : v.code = Violation.requiredCode) : ∃ place value, q = .required place value := by
  cases h with
  | absent => exact ⟨_, _, rfl⟩
  | builtin hg seg hv => exact absurd hcode (Segment.code_ne_required hv)
  | record => exact absurd hcode.symm Violation.requiredCode_ne_recordCode
  | custom hbinds message =>
    exact absurd (hcode ▸ mem_ruleNames_of_binds hbinds) hnone

theorem Cause.eq_builtin (h : (after settings now steps).Cause time q v) {b : Builtin}
    (hb : b ≠ .required) (hcode : b.code? = some v.code) :
    ∃ place value, q = .builtin place value v := by
  cases h with
  | absent =>
    have hown : Builtin.required.code? = some Violation.requiredCode := rfl
    exact absurd (Builtin.eq_of_code? hcode hown) hb
  | builtin => exact ⟨_, _, rfl⟩
  | record => exact absurd hcode b.code?_ne_recordCode
  | custom hbinds message => exact absurd hcode ((ruleName_of_binds hbinds).1.code?_ne hb)

theorem Locates.plain (hnames : i.PlainNames) {value : Value} (h : i.Locates now r q v value) :
    q.place.Plain := by
  obtain ⟨_, _, _, _, hreach, -, -⟩ := h.checked
  exact (Stage.located_of_reaches hnames hreach).1

theorem Locates.place_eq (hnames : i.PlainNames) {value value' : Value}
    (h : i.Locates now r q v value) (h' : i.Locates now r q' v' value')
    (hfield : v.field = v'.field) : q.place = q'.place :=
  (h.only q'.place (h'.plain hnames) (hfield ▸ h'.shown)).symm

theorem exists_locates (hnames : i.PlainNames)
    (h : (q, v) ∈ Transcript.reports ((i.terrain now).root r.tag 0 r.fields))
    (hvalue : q.value? ≠ none) : ∃ value, i.Locates now r q v value := by
  obtain ⟨hq, hanswer⟩ := Transcript.mem_reports h
  rcases locates_or_record hnames hq hanswer with hlocates | ⟨_, _, _, _, _, rfl⟩
  · exact hlocates
  · exact absurd rfl hvalue

section Reported

variable (hnames : (after settings now steps).PlainNames)
  (hnone : Violation.requiredCode ∉ (after settings now steps).ruleNames)
  (h : (q, v) ∈ Transcript.reports
    (((after settings now steps).terrain time).root r.tag 0 r.fields))
  (h' : (q', v') ∈ Transcript.reports
    (((after settings now steps).terrain time).root r.tag 0 r.fields))

include hnames hnone h h'

/-- Inquiries that agree do not report twice at a place under the code of a built-in check. -/
theorem code_ne_of_agree (hagree : q.Agree q') (hfield : v.field = v'.field) {b : Builtin}
    (hcode : b.code? = some v.code) : v.code ≠ v'.code := by
  intro hsame
  have hcause := cause_of_mem_reports h
  have hcause' := cause_of_mem_reports h'
  by_cases hb : b = .required
  · subst hb
    have hrequired : v.code = Violation.requiredCode := (Option.some.inj hcode).symm
    obtain ⟨place, value, rfl⟩ := hcause.eq_required hnone hrequired
    obtain ⟨place', value', rfl⟩ := hcause'.eq_required hnone (hsame ▸ hrequired)
    obtain ⟨_, hlocates⟩ := exists_locates hnames h nofun
    obtain ⟨_, hlocates'⟩ := exists_locates hnames h' nofun
    have hplace : place = place' := hlocates.place_eq hnames hlocates' hfield
    cases hagree.alone place value rfl with
    | outside houtside => exact houtside (hplace ▸ .refl)
  · obtain ⟨place, value, rfl⟩ := hcause.eq_builtin hb hcode
    obtain ⟨place', value', rfl⟩ := hcause'.eq_builtin hb (hsame ▸ hcode)
    obtain ⟨_, hlocates⟩ := exists_locates hnames h nofun
    obtain ⟨_, hlocates'⟩ := exists_locates hnames h' nofun
    have hplace : place = place' := hlocates.place_eq hnames hlocates' hfield
    subst hplace
    exact hagree.once place value value' v v' rfl rfl hsame

/-- What agrees with a missing value and is reported at or below its label is due to a rule for
whole records, or to a rule before the dive of an optional scalar. -/
theorem exempt_of_agree (hagree : q.Agree q') (hrequired : v.code = Violation.requiredCode)
    (hspans : LabelSpans v.field v'.field) :
    (∃ place tag fields model rule, q' = .record place tag fields model rule) ∨
      v'.field = v.field ∧ (after settings now steps).FromHead time r q' := by
  obtain ⟨place, value, rfl⟩ := (cause_of_mem_reports h).eq_required hnone hrequired
  obtain ⟨_, hlocates⟩ := exists_locates hnames h nofun
  obtain ⟨hq', hanswer⟩ := Transcript.mem_reports h'
  rcases locates_or_record hnames hq' hanswer with ⟨_, hlocates'⟩ | hrecord
  · have hinner : place.Spans q'.place := (hlocates.plain hnames).spans_of_labelSpans
      (hlocates'.plain hnames) hlocates.shown hlocates'.shown hspans
    cases hagree.alone place value rfl with
    | outside houtside => exact absurd hinner houtside
    | head value' rule =>
      obtain ⟨_, nullable, level, outer, hreach, -, hown⟩ := hlocates'.checked
      obtain ⟨head, target, rfl, hrule⟩ := Inquiry.mem_head_of_mem_own hown
      have hfield : v'.field = v.field :=
        Option.some.inj (hlocates'.shown.symm.trans hlocates.shown)
      exact .inr ⟨hfield, head, target, nullable, place, level, outer, value', rule, hreach,
        hrule, rfl⟩
    | record place tag fields model rule => exact .inl ⟨place, tag, fields, model, rule, rfl⟩
    | refusal place f => cases hanswer
  · exact .inl hrecord

end Reported

/-- No check that comes with the library reports twice, and where a value is missing nothing
else is reported. When no name of a field has dots or brackets in it, no two fields of a type
share their name and no rule has the code of values that are missing for its name, no two
violations have the same field and the same code of a built-in check. What is reported at or
below the label of a value that is missing is due to rules for whole records, and at the label
itself to rules before the dive of an optional scalar. -/
theorem required_stands_alone (settings : Settings) (now : Instant) (steps : List Step)
    (time : Instant) (r : Record) (vs : Violations)
    (hnames : (after settings now steps).PlainNames)
    (hnone : Violation.requiredCode ∉ (after settings now steps).ruleNames)
    (hvs : (after settings now steps).violations time r = .ok vs) :
    let i := after settings now steps
    let reports := Transcript.reports ((i.terrain time).root r.tag 0 r.fields)
    (vs.items.Pairwise fun v v' => v.field = v'.field →
      ∀ b : Builtin, b.code? = some v.code → v.code ≠ v'.code) ∧
    vs.items = reports.map (·.2) ∧
    ∀ (j k : Nat) (q q' : Inquiry) (v v' : Violation), j ≠ k →
      reports[j]? = some (q, v) → reports[k]? = some (q', v') →
        v.code = Violation.requiredCode → LabelSpans v.field v'.field →
          (∃ place tag fields model rule, q' = .record place tag fields model rule) ∨
            v'.field = v.field ∧ i.FromHead time r q' := by
  intro i reports
  have hitems : vs.items = reports.map (·.2) := reports_of_violations hvs
  have hpairwise : reports.Pairwise fun x y => x.1.Agree y.1 := pairwise_reports hnames time r
  refine ⟨?_, hitems, ?_⟩
  · rw [hitems]
    refine List.pairwise_map.mpr (hpairwise.imp_of_mem fun hx hy hagree hfield b hcode => ?_)
    exact code_ne_of_agree hnames hnone hx hy hagree hfield hcode
  · intro j k q q' v v' hne hj hk hrequired hspans
    obtain ⟨hlt, hj'⟩ := List.getElem?_eq_some_iff.mp hj
    obtain ⟨hlt', hk'⟩ := List.getElem?_eq_some_iff.mp hk
    have hagree : q.Agree q' := by
      have hordered := List.pairwise_iff_getElem.mp hpairwise
      rcases Nat.lt_or_gt_of_ne hne with hbefore | hbefore
      · have h := hordered j k hlt hlt' hbefore
        rwa [hj', hk'] at h
      · have h := hordered k j hlt' hlt hbefore
        rw [hj', hk'] at h
        exact h.symm
    exact exempt_of_agree hnames hnone (List.mem_of_getElem? hj) (List.mem_of_getElem? hk) hagree
      hrequired hspans

end Inspector

/-- A type with an optional text that is required, with the rules of the optional before it. -/
def RecordType.badge : RecordType where
  tag := ⟨5, "Badge"⟩
  fields := [.checked "motto" (.option .text) "loud|dive|req"]

def Record.badge : Record where
  tag := RecordType.badge.tag
  fields := [.just (.text "")]

namespace Inspector

/-- An optional motto that is there, but empty, is looked at by a rule and missing all the same. -/
theorem required_stands_alone_badge :
    let i := after {} ⟨0⟩ [.addRule "loud" fun _ _ => .ok (some "motto is loud"), .register .badge]
    ∃ q, (q, ⟨"motto", "motto is loud", "loud"⟩) ∈
        Transcript.reports ((i.terrain ⟨0⟩).root Record.badge.tag 0 Record.badge.fields) ∧
      i.FromHead ⟨0⟩ .badge q := by
  intro i
  have hvs : (run {} ⟨0⟩ [.addRule "loud" fun _ _ => .ok (some "motto is loud"),
      .register .badge]).1.violations ⟨0⟩ .badge =
        .ok ⟨[⟨"motto", "motto is loud", "loud"⟩, .required "motto"]⟩ := by
    cbv
  have hnone : Violation.requiredCode ∉ i.ruleNames := by
    rw [ruleNames, rules_after]
    decide +kernel
  have hnames : i.PlainNames := by
    obtain ⟨k, hk⟩ : ∃ k, (step {} ⟨0⟩ (.addRule "loud" fun _ _ =>
        .ok (some "motto is loud"))).1.register .badge = .ok k := (isSome_toOption _).mp (by cbv)
    have hi : i = k := congrArg Prod.fst (step_register_of_ok hk ⟨0⟩)
    rw [hi]
    refine (plainNames_of_empty ?_).register hk ?_ (by decide)
    · rw [step_addRule_eq]
    · intro name hname
      cases List.mem_singleton.mp hname
      exact ⟨by decide, by decide, by decide⟩
  obtain ⟨-, hitems, halone⟩ := required_stands_alone {} ⟨0⟩ _ ⟨0⟩ .badge _ hnames hnone hvs
  have hreport : ∀ v ∈ [⟨"motto", "motto is loud", "loud"⟩, Violation.required "motto"],
      ∃ q, (q, v) ∈ Transcript.reports
        ((i.terrain ⟨0⟩).root Record.badge.tag 0 Record.badge.fields) := by
    intro v hv
    have hfound : v ∈ (Transcript.reports
        ((i.terrain ⟨0⟩).root Record.badge.tag 0 Record.badge.fields)).map (·.2) := by
      rw [← hitems]
      exact hv
    obtain ⟨⟨q, _⟩, hq, rfl⟩ := List.mem_map.mp hfound
    exact ⟨q, hq⟩
  obtain ⟨q, hq⟩ := hreport _ List.mem_cons_self
  obtain ⟨missing, hmissing⟩ := hreport _ (List.mem_cons_of_mem _ List.mem_cons_self)
  obtain ⟨j, hj⟩ := List.mem_iff_getElem?.mp hmissing
  obtain ⟨k, hk⟩ := List.mem_iff_getElem?.mp hq
  have hne : j ≠ k := by
    rintro rfl
    rw [hj] at hk
    simp [Violation.required, Violation.requiredCode] at hk
  rcases halone j k _ _ _ _ hne hj hk rfl (.refl "motto") with ⟨_, _, _, _, _, rfl⟩ | ⟨-, hhead⟩
  · have hcode : ∀ {place tag fields model rule v},
        i.Cause ⟨0⟩ (.record place tag fields model rule) v → v.code = Violation.recordCode := by
      rintro _ _ _ _ _ _ ⟨⟩
      rfl
    have hloud : "loud" = Violation.recordCode := hcode (cause_of_mem_reports hq)
    exact absurd hloud (by decide)
  · exact ⟨q, hq, hhead⟩

end Inspector

end RecordValidation
