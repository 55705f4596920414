import RecordValidation.Proofs.Soundness

/-!
Records within records. A record that stands at a path within another one is asked the
same as when it stands alone, under labels that begin with the path. Only its depth is
another one, so the two can differ where a survey gets too deep.
-/

namespace RecordValidation

namespace Scope

/-- Checks a record that stands at a path within another one. -/
def descend (s : Scope) (path : String) (tag : TypeTag) (fields : List Value) : SurveyM Unit :=
  s.enter (some path) tag fun blueprint => do
    s.checkFields blueprint (some path) tag fields blueprint.fields
    s.applyRecordRules blueprint (some path) tag fields blueprint.recordRules

/-- A survey descends into a record once the rules of the place have been applied. -/
theorem check_record (s : Scope) (head : Segment Empty Empty) (nullable : Bool) (path : String)
    (tag : TypeTag) (fields : List Value) :
    s.check (.record head) nullable path (.record tag fields) = (do
      s.applyCustom path (.record tag fields) head.custom
      s.descend path tag fields) := by
  simp only [check, descend]

theorem fieldLabel_fieldLabel (path : String) (outer : Option String) (name : String) :
    fieldLabel (some (outer.elim path (fieldLabel (some path)))) name =
      fieldLabel (some path) (fieldLabel outer name) := by
  cases outer with
  | none => rfl
  | some outer => simp only [fieldLabel, Option.elim_some, String.append_assoc]

theorem elementLabel_fieldLabel (path label : String) (index : Nat) :
    elementLabel (fieldLabel (some path) label) index =
      fieldLabel (some path) (elementLabel label index) := by
  simp only [elementLabel, fieldLabel, String.append_assoc]

end Scope

open Scope (fieldLabel)

/-- A fault of a record alone, as it is for the record at a path. -/
def Fault.under (path : String) : Fault → Fault
  | .rule field name source => .rule (fieldLabel (some path) field) name source
  | .mismatch field expected found => .mismatch (fieldLabel (some path) field) expected found
  | .foreignRecord field model => .foreignRecord (fieldLabel (some path) field) model
  | f => f

namespace Inquiry

/-- What an inquiry reports of a record alone, as it is for the record at a path. The
messages of the built-in checks begin with the label. The rules for the record itself
report under the path, for there is no label within it. -/
def relabel (path : String) : Inquiry → Violation → Violation
  | .required _ _, v | .builtin _ _ _, v =>
    ⟨fieldLabel (some path) v.field, fieldLabel (some path) v.message, v.code⟩
  | .record .root _ _ _ _, v => { v with field := path }
  | _, v => { v with field := fieldLabel (some path) v.field }

def answerUnder (path : String) (q : Inquiry) : Except Fault (Option Violation) :=
  match q.answer with
  | .ok found => .ok (found.map (q.relabel path))
  | .error f => .error (f.under path)

/-- The inquiries at which a survey ends for its depth. -/
inductive TooDeep : Inquiry → Prop
  | refusal (place : Place) (label : String) (limit : Nat) :
      TooDeep (.refusal place (.tooDeep label limit))

end Inquiry

/-- The built-in checks fail alike under any label, and their messages begin with it. -/
theorem Segment.failures_fieldLabel {β α : Type} (seg : Segment β α) (g : Gauge β α)
    (path label : String) :
    seg.failures g (fieldLabel (some path) label) = (seg.failures g label).map fun v =>
      ⟨fieldLabel (some path) v.field, fieldLabel (some path) v.message, v.code⟩ := by
  simp only [failures, List.map_append, Option.toList_map, List.map_map, Function.comp_def,
    violation, fieldLabel, String.append_assoc]

/-- Lists of inquiries into a record, first alone and then at a path. They go side by side
up to where one of them gets too deep. -/
inductive Parallel (path : String) : List Inquiry → List Inquiry → Prop
  | nil : Parallel path [] []
  | cons {q q' : Inquiry} {l l' : List Inquiry} (h : q'.answer = q.answerUnder path)
      (hl : Parallel path l l') : Parallel path (q :: l) (q' :: l')
  | deep {q : Inquiry} (h : q.TooDeep) (l l' : List Inquiry) : Parallel path (q :: l) l'
  | deepWithin {q : Inquiry} (h : q.TooDeep) (l l' : List Inquiry) : Parallel path l (q :: l')

namespace Parallel

variable {path : String} {l l' : List Inquiry}

theorem append {m m' : List Inquiry} (hl : Parallel path l l') (hm : Parallel path m m') :
    Parallel path (l ++ m) (l' ++ m') := by
  induction hl with
  | nil => exact hm
  | cons h _ ih => exact .cons h ih
  | deep h l l' => exact .deep h (l ++ m) (l' ++ m')
  | deepWithin h l l' => exact .deepWithin h (l ++ m) (l' ++ m')

theorem fault_of_tooDeep {q : Inquiry} (h : q.TooDeep) (l : List Inquiry) :
    ∃ label limit, (Transcript.ofInquiries (q :: l)).fault = some (.tooDeep label limit) := by
  cases h with
  | refusal place label limit => exact ⟨label, limit, rfl⟩

/-- Where neither list gets too deep, the second one brings the reports of the first one
to light under the labels at the path, and ends with the fault of the first one. -/
theorem ofInquiries_eq (h : Parallel path l l')
    (hl : ∀ label limit, (Transcript.ofInquiries l).fault ≠ some (.tooDeep label limit))
    (hl' : ∀ label limit, (Transcript.ofInquiries l').fault ≠ some (.tooDeep label limit)) :
    Transcript.ofInquiries l' =
      ⟨(Transcript.reports l).map fun x => x.1.relabel path x.2,
        (Transcript.ofInquiries l).fault.map (·.under path)⟩ := by
  induction h with
  | nil => rfl
  | @cons q q' l l' h _ ih =>
    rw [Transcript.ofInquiries] at hl hl'
    rw [Transcript.ofInquiries, Transcript.ofInquiries, Transcript.reports]
    rw [h, Inquiry.answerUnder] at hl' ⊢
    cases hq : q.answer with
    | error f => rfl
    | ok found =>
      rw [hq] at hl hl'
      cases found with
      | none =>
        have hrest := ih hl hl'
        exact hrest
      | some v =>
        have hrest := ih hl hl'
        simp only [Option.map_some, Transcript.ofAnswer, Transcript.andThen, hrest,
          List.singleton_append, List.map_cons]
  | deep h l l' =>
    obtain ⟨label, limit, hfault⟩ := fault_of_tooDeep h l
    exact absurd hfault (hl label limit)
  | deepWithin h l l' =>
    obtain ⟨label, limit, hfault⟩ := fault_of_tooDeep h l'
    exact absurd hfault (hl' label limit)

end Parallel

/-- A rule whose answers do not depend on the label. -/
def Rule.Blind (rule : Rule) : Prop :=
  ∀ label label' value, rule label value = rule label' value

section

variable {path label : String} {place place' : Place} (hplace : place.path? = some label)
  (hplace' : place'.path? = some (fieldLabel (some path) label))

namespace Parallel

open Inquiry

include hplace hplace'

theorem absence (required : Bool) (value : Value) :
    Parallel path (ofAbsence required place value) (ofAbsence required place' value) := by
  cases required with
  | false => exact .nil
  | true =>
    refine .cons ?_ .nil
    simp only [answerUnder, answer, relabel, Place.label_of_path? hplace,
      Place.label_of_path? hplace', Violation.required, fieldLabel, String.append_assoc,
      Option.map_some]

theorem mismatch (expected : Kind) (found : Value) :
    Parallel path (ofMismatch place expected found) (ofMismatch place' expected found) := by
  refine .cons ?_ .nil
  simp only [answerUnder, answer, Fault.under, Place.label_of_path? hplace,
    Place.label_of_path? hplace']

theorem rules (value : Value) (station : Station) {rules : List NamedRule}
    (hblind : ∀ r ∈ rules, r.rule.Blind) :
    Parallel path (ofRules place value station rules) (ofRules place' value station rules) := by
  induction rules with
  | nil => exact .nil
  | cons r rest ih =>
    obtain ⟨hr, hrest⟩ := List.forall_mem_cons.mp hblind
    refine .cons ?_ (ih hrest)
    simp only [answerUnder, answer, Place.label_of_path? hplace, Place.label_of_path? hplace']
    rw [hr (fieldLabel (some path) label) label value]
    cases r.rule label value with
    | error source => rfl
    | ok found => cases found <;> rfl

theorem segment {β α : Type} (station : Station) {seg : Segment β α} (g : Gauge β α)
    (value : Value) (hblind : ∀ r ∈ seg.custom, r.rule.Blind) :
    Parallel path (ofSegment station seg g place value)
      (ofSegment station seg g place' value) := by
  refine .append ?_ (rules hplace hplace' value station hblind)
  rw [Place.label_of_path? hplace, Place.label_of_path? hplace', Segment.failures_fieldLabel]
  induction seg.failures g label with
  | nil => exact .nil
  | cons v rest ih => exact .cons rfl ih

variable (t : Terrain)

theorem scalar {target : ScalarConstraint} (hblind : ∀ r ∈ target.custom, r.rule.Blind)
    (value : Value) :
    Parallel path (t.scalar place target value) (t.scalar place' target value) := by
  cases target <;> cases value <;>
    first
    | exact segment hplace hplace' _ _ _ hblind
    | exact mismatch hplace hplace' _ _

theorem ifPresent {target : ScalarConstraint} (hblind : ∀ r ∈ target.custom, r.rule.Blind)
    (nullable : Bool) (value : Value) :
    Parallel path (t.ifPresent place target nullable value)
      (t.ifPresent place' target nullable value) := by
  unfold Terrain.ifPresent
  cases value.present? nullable with
  | none => exact absence hplace hplace' target.required value
  | some present => exact scalar hplace hplace' t hblind present

theorem pointer {head : Segment Empty Empty} {target : ScalarConstraint}
    (hhead : ∀ r ∈ head.custom, r.rule.Blind) (htarget : ∀ r ∈ target.custom, r.rule.Blind)
    (value : Value) :
    Parallel path (t.pointer place head target value) (t.pointer place' head target value) := by
  cases value with
  | null => exact absence hplace hplace' head.required .null
  | just pointee =>
    exact .append (rules hplace hplace' _ .pointer hhead)
      (ifPresent hplace hplace' t htarget false pointee)
  | _ =>
    exact .append (rules hplace hplace' _ .pointer hhead)
      (ifPresent hplace hplace' t htarget false _)

theorem plain {c : Constraint} (hblind : ∀ b ∈ c.bindings, b.2.rule.Blind) (nullable : Bool)
    (value : Value) :
    Parallel path (t.plain nullable place value c) (t.plain nullable place' value c) := by
  cases c with
  | unchecked => exact .nil
  | scalar target =>
    simp only [Constraint.bindings, List.forall_mem_map] at hblind
    exact ifPresent hplace hplace' t hblind nullable value
  | pointer head target =>
    simp only [Constraint.bindings, List.forall_mem_append, List.forall_mem_map] at hblind
    exact pointer hplace hplace' t hblind.1 hblind.2 value
  | sequence head element =>
    unfold Terrain.plain
    cases value.present? nullable with
    | none => exact absence hplace hplace' head.required value
    | some present => exact mismatch hplace hplace' .sequence present
  | record head =>
    unfold Terrain.plain
    cases value.present? nullable with
    | none => exact absence hplace hplace' head.required value
    | some present => exact mismatch hplace hplace' .record present

omit hplace hplace'

theorem recordRules (hunder : place'.path? = some (place.path?.elim path (fieldLabel (some path))))
    (b : Blueprint) (tag : TypeTag) (fields : List Value) :
    Parallel path (ofRecordRules b place tag fields) (ofRecordRules b place' tag fields) := by
  unfold ofRecordRules
  induction b.recordRules with
  | nil => exact .nil
  | cons r rest ih =>
    refine .cons ?_ ih
    simp only [answerUnder, answer, hunder]
    cases r.apply tag fields with
    | error source => rfl
    | ok found =>
      cases found with
      | none => rfl
      | some message => cases place <;> rfl

/-- The way into a record is the same at every level, but for its depth. -/
theorem entry {tag : TypeTag} {body body' : Blueprint → List Inquiry} (level level' : Nat)
    (hbody : ∀ b, t.blueprints.find? tag = some b → Parallel path (body b) (body' b)) :
    Parallel path (t.entry place tag level body) (t.entry place' tag level' body') := by
  unfold Terrain.entry
  cases hfind : t.blueprints.find? tag with
  | none => exact .cons rfl .nil
  | some b =>
    dsimp only
    by_cases hlevel : t.limit ≤ level
    · rw [if_pos hlevel]
      exact .deep (.refusal _ _ _) _ _
    by_cases hlevel' : t.limit ≤ level'
    · rw [if_pos hlevel']
      exact .deepWithin (.refusal _ _ _) _ _
    · rw [if_neg hlevel, if_neg hlevel']
      exact hbody b hfind

end Parallel

end

/-- A terrain whose custom rules do not depend on labels. -/
def Terrain.Blind (t : Terrain) : Prop :=
  ∀ tag b, t.blueprints.find? tag = some b →
    ∀ plan ∈ b.fields, ∀ x ∈ plan.constraint.bindings, x.2.rule.Blind

namespace Parallel

open Inquiry

variable {path : String} {t : Terrain}

mutual

/-- The inquiries into a value are the same under the labels at a path, at any level. -/
theorem agenda (ht : t.Blind) {c : Constraint} (hblind : ∀ b ∈ c.bindings, b.2.rule.Blind)
    (nullable : Bool) {place place' : Place} {label : String}
    (hplace : place.path? = some label)
    (hplace' : place'.path? = some (fieldLabel (some path) label)) (level level' : Nat) :
    (value : Value) →
      Parallel path (t.agenda c nullable place level value)
        (t.agenda c nullable place' level' value)
  | .just inner => by
    cases c with
    | unchecked =>
      simp only [Terrain.agenda]
      exact .nil
    | pointer head target =>
      simp only [Constraint.bindings, List.forall_mem_append, List.forall_mem_map] at hblind
      simp only [Terrain.agenda]
      exact pointer hplace hplace' t hblind.1 hblind.2 (.just inner)
    | scalar _ | sequence _ _ | record _ =>
      simp only [Terrain.agenda]
      exact agenda ht hblind true hplace hplace' level level' inner
  | .sequence items => by
    cases c with
    | sequence head element =>
      simp only [Constraint.bindings, List.forall_mem_append, List.forall_mem_map] at hblind
      simp only [Terrain.agenda]
      exact .append (segment hplace hplace' .sequence _ _ hblind.1)
        (elements ht hblind.2 hplace hplace' 0 level level' items)
    | unchecked | scalar _ | pointer _ _ | record _ =>
      simp only [Terrain.agenda]
      exact plain hplace hplace' t hblind nullable _
  | .record tag fields => by
    cases c with
    | record head =>
      simp only [Constraint.bindings, List.forall_mem_map] at hblind
      simp only [Terrain.agenda]
      have hunder : place'.path? = some (place.path?.elim path (fieldLabel (some path))) := by
        rw [hplace, hplace', Option.elim_some]
      refine .append (rules hplace hplace' _ .record hblind)
        (entry t level level' fun b hb => ?_)
      exact .append (Parallel.fields ht hunder b tag _ _ fields b.fields (ht tag b hb))
        (recordRules hunder b tag fields)
    | unchecked | scalar _ | pointer _ _ | sequence _ _ =>
      simp only [Terrain.agenda]
      exact plain hplace hplace' t hblind nullable _
  | .text _ | .integer _ | .float _ | .time _ | .null | .inert => by
    simp only [Terrain.agenda]
    exact plain hplace hplace' t hblind nullable _

theorem elements (ht : t.Blind) {c : Constraint} (hblind : ∀ b ∈ c.bindings, b.2.rule.Blind)
    {place place' : Place} {label : String} (hplace : place.path? = some label)
    (hplace' : place'.path? = some (fieldLabel (some path) label)) (index level level' : Nat) :
    (items : List Value) →
      Parallel path (t.elements c place index level items)
        (t.elements c place' index level' items)
  | [] => by
    simp only [Terrain.elements]
    exact .nil
  | item :: rest => by
    have helement := Place.path?_element hplace index
    have helement' : (place'.element index).path? =
        some (fieldLabel (some path) (Scope.elementLabel label index)) := by
      rw [Place.path?_element hplace', Scope.elementLabel_fieldLabel]
    simp only [Terrain.elements]
    exact .append (agenda ht hblind false helement helement' level level' item)
      (elements ht hblind hplace hplace' (index + 1) level level' rest)

theorem fields (ht : t.Blind) {place place' : Place}
    (hunder : place'.path? = some (place.path?.elim path (fieldLabel (some path))))
    (b : Blueprint) (tag : TypeTag) (level level' : Nat) :
    (values : List Value) → (plans : List FieldPlan) →
      (∀ plan ∈ plans, ∀ x ∈ plan.constraint.bindings, x.2.rule.Blind) →
      Parallel path (t.fields b place tag level values plans)
        (t.fields b place' tag level' values plans)
  | [], _, _ => by
    simp only [Terrain.fields]
    exact .nil
  | _ :: _, [], _ => by
    simp only [Terrain.fields]
    exact .nil
  | value :: values, plan :: plans, hblind => by
    obtain ⟨hplan, hplans⟩ := List.forall_mem_cons.mp hblind
    have hfield := Place.path?_field place plan.name
    have hfield' : (place'.field plan.name).path? =
        some (fieldLabel (some path) (fieldLabel place.path? plan.name)) := by
      rw [Place.path?_field, hunder, Scope.fieldLabel_fieldLabel]
    simp only [Terrain.fields]
    refine .append ?_ (fields ht hunder b tag level level' values plans hplans)
    by_cases hunchecked : plan.constraint.isUnchecked = true
    · rw [if_pos hunchecked, if_pos hunchecked]
      exact .nil
    by_cases hforeign : tag ≠ plan.owner
    · rw [if_neg hunchecked, if_neg hunchecked, if_pos hforeign, if_pos hforeign]
      refine .cons ?_ .nil
      rw [Place.label_of_path? hfield']
      rfl
    · rw [if_neg hunchecked, if_neg hunchecked, if_neg hforeign, if_neg hforeign]
      exact agenda ht hplan false hfield hfield' level level' value

end

end Parallel

/-- All inquiries into a record that stands at a path. -/
def Terrain.within (t : Terrain) (path : String) (tag : TypeTag) (level : Nat)
    (fields : List Value) : List Inquiry :=
  t.entry (.labelled path) tag level fun blueprint =>
    t.fields blueprint (.labelled path) tag (level + 1) fields blueprint.fields ++
      Inquiry.ofRecordRules blueprint (.labelled path) tag fields

theorem Parallel.within {t : Terrain} (ht : t.Blind) (path : String) (tag : TypeTag)
    (level level' : Nat) (fields : List Value) :
    Parallel path (t.root tag level fields) (t.within path tag level' fields) := by
  have hunder : (Place.labelled path).path? =
      some (Place.root.path?.elim path (fieldLabel (some path))) := rfl
  refine entry t level level' fun b hb => ?_
  exact .append (Parallel.fields ht hunder b tag _ _ fields b.fields (ht tag b hb))
    (recordRules hunder b tag fields)

theorem Scope.descend_follows (s : Scope) (path : String) (tag : TypeTag)
    (fields : List Value) :
    s.Follows (s.descend path tag fields)
      (fun level => s.terrain.within path tag level fields) := by
  have hplace : (Place.labelled path).path? = some path := rfl
  exact .enter hplace tag fun blueprint =>
    .andThen (checkFields_follows s blueprint hplace tag fields blueprint.fields)
      (.of_eq (s.applyRecordRules_eq hplace blueprint tag fields))

namespace Inspector

/-- A record within another one is checked as it is on its own, as long as neither check
gets too deep and no custom rule looks at the label. What comes to light is the same in
the same order, under labels that begin with the path of the record; only the rules for
the record itself report under that path where they reported under the name of its type.
A fault ends the check at the same point, and it is the same under such labels. -/
theorem nested_record_as_alone (i : Inspector) (now : Instant) (r : Record) (path : String)
    (survey : Survey) (hblind : ∀ station rule, i.Binds station rule → rule.rule.Blind)
    (halone : ∀ label limit, i.violations now r ≠ .error (.tooDeep label limit))
    (hnested : ∀ label limit after,
      (i.scope .all now).descend path r.tag r.fields survey ≠
        .error (.failed (.tooDeep label limit)) after) :
    let agenda := (i.terrain now).root r.tag 0 r.fields
    let reports := Transcript.reports agenda
    let fault := (Transcript.ofInquiries agenda).fault
    (∀ head nullable, (i.scope .all now).check (.record head) nullable path
        (.record r.tag r.fields) = (do
          (i.scope .all now).applyCustom path (.record r.tag r.fields) head.custom
          (i.scope .all now).descend path r.tag r.fields)) ∧
      (i.scope .all now).checkRoot r.tag r.fields {} =
        Transcript.play ⟨reports.map (·.2), fault⟩ .all {} ∧
      i.violations now r = Transcript.outcome ⟨reports.map (·.2), fault⟩ ∧
      (i.scope .all now).descend path r.tag r.fields survey =
        Transcript.play ⟨reports.map fun x => x.1.relabel path x.2, fault.map (·.under path)⟩
          .all survey := by
  intro agenda reports fault
  let nested := (i.terrain now).within path r.tag survey.level r.fields
  have hagenda : i.transcript now r = ⟨reports.map (·.2), fault⟩ := by
    rw [← Transcript.found_ofInquiries]
    rfl
  have hviolations : i.violations now r = Transcript.outcome ⟨reports.map (·.2), fault⟩ := by
    rw [violations_eq, hagenda]
  have hdescend : (i.scope .all now).descend path r.tag r.fields survey =
      (Transcript.ofInquiries nested).play .all survey := by
    rw [Scope.descend_follows, Scope.askAll_apply]
    rfl
  have hfault : ∀ label limit, fault ≠ some (.tooDeep label limit) := by
    intro label limit h
    apply halone label limit
    rw [hviolations, h]
    rfl
  have hfault' : ∀ label limit,
      (Transcript.ofInquiries nested).fault ≠ some (.tooDeep label limit) := by
    intro label limit h
    apply hnested label limit
    rw [hdescend, Transcript.play_all_of_fault h]
  have ht : (i.terrain now).Blind := by
    intro tag b hb plan hplan x hx
    exact hblind x.1 x.2 ⟨tag, b, hb, plan, hplan, hx⟩
  have hparallel : Parallel path agenda nested := .within ht path r.tag 0 survey.level r.fields
  refine ⟨fun head nullable => Scope.check_record _ head nullable path r.tag r.fields,
    by rw [checkRoot_scope, hagenda], hviolations, ?_⟩
  rw [hdescend, hparallel.ofInquiries_eq hfault hfault']

theorem nested_record_as_alone_member :
    let tag : TypeTag := ⟨3, "Member"⟩
    let capital : Rule := .ofText fun _ s => if s = "anna" then some "no capital" else none
    let name : Segment Nat String :=
      { required := true, greatest := some 3, custom := [⟨"capital", capital⟩] }
    let blueprint : Blueprint :=
      { name := "Member"
        fields := [⟨tag, "name", .scalar (.text name)⟩, ⟨tag, "friend", .record {}⟩]
        recordRules := [⟨tag, fun _ => .ok (some "no members")⟩] }
    let i : Inspector := { blueprints := Roster.empty.insert tag blueprint }
    let r : Record := ⟨tag, [.text "anna", .just (.record tag [.text "", .null])]⟩
    i.violations ⟨0⟩ r = .ok ⟨[
        ⟨"name", "name can not be longer than 3 characters", "max"⟩,
        ⟨"name", "no capital", "capital"⟩,
        ⟨"friend.name", "friend.name is required", "required"⟩,
        ⟨"friend", "no members", "record"⟩,
        ⟨"Member", "no members", "record"⟩]⟩ ∧
      (i.scope .all ⟨0⟩).descend "team[2]" r.tag r.fields { level := 1 } =
        .ok () { level := 1, found := [
          ⟨"team[2].name", "team[2].name can not be longer than 3 characters", "max"⟩,
          ⟨"team[2].name", "no capital", "capital"⟩,
          ⟨"team[2].friend.name", "team[2].friend.name is required", "required"⟩,
          ⟨"team[2].friend", "no members", "record"⟩,
          ⟨"team[2]", "no members", "record"⟩] } := by
  intro tag capital name blueprint i r
  have hblind : ∀ station rule, i.Binds station rule → rule.rule.Blind := by
    rintro station rule ⟨tag', b, hb, plan, hplan, hrule⟩ label label' value
    rw [Roster.find?_insert] at hb
    split at hb
    · cases hb
      rcases List.mem_cons.mp hplan with rfl | hplan
      · cases List.mem_singleton.mp hrule
        cases value <;> rfl
      · cases List.mem_singleton.mp hplan
        cases hrule
    · cases hb
  have halone : i.violations ⟨0⟩ r = .ok ⟨[
        ⟨"name", "name can not be longer than 3 characters", "max"⟩,
        ⟨"name", "no capital", "capital"⟩,
        ⟨"friend.name", "friend.name is required", "required"⟩,
        ⟨"friend", "no members", "record"⟩,
        ⟨"Member", "no members", "record"⟩]⟩ := by cbv
  have hdeep : ∀ label limit, i.violations ⟨0⟩ r ≠ .error (.tooDeep label limit) := by
    intro label limit h
    rw [halone] at h
    cases h
  have hdeep' : ∀ label limit after,
      (i.scope .all ⟨0⟩).descend "team[2]" r.tag r.fields { level := 1 } ≠
        .error (.failed (.tooDeep label limit)) after := by
    intro label limit after h
    have hends : ((i.scope .all ⟨0⟩).descend "team[2]" r.tag r.fields).run' { level := 1 } =
        some () := by cbv
    rw [EStateM.run', EStateM.run, h] at hends
    cases hends
  obtain ⟨-, -, -, hnested⟩ :=
    nested_record_as_alone i ⟨0⟩ r "team[2]" { level := 1 } hblind hdeep hdeep'
  refine ⟨halone, ?_⟩
  rw [hnested]
  cbv

end Inspector

end RecordValidation
