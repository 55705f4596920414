import RecordValidation.Proofs.Compilation
import RecordValidation.Proofs.Refusal

/-!
Weaker rules. If all the rules that one inspector has compiled are among those of another, in
the same order, then whatever the one asks about a record the other asks as well. So it finds
no violations but those that the other one finds, and ends with a fault only where that one
does.
-/

namespace RecordValidation

/-- A level whose rules another level has as well, the custom ones in the same order. -/
structure Segment.Weaker {β α : Type} (s s' : Segment β α) : Prop where
  required : s.required = true → s'.required = true
  least : ∀ bound ∈ s.least, bound ∈ s'.least
  greatest : ∀ bound ∈ s.greatest, bound ∈ s'.greatest
  pattern : ∀ p ∈ s.pattern, p ∈ s'.pattern
  members : ∀ listed ∈ s.members, listed ∈ s'.members
  custom : s.custom.Sublist s'.custom

namespace Segment

variable {β α : Type} {s s' : Segment β α}

theorem Weaker.refl (s : Segment β α) : s.Weaker s :=
  ⟨id, fun _ => id, fun _ => id, fun _ => id, fun _ => id, .refl _⟩

theorem toList_map_filter_sublist {γ δ : Type} {o o' : Option γ} (h : ∀ a ∈ o, a ∈ o')
    (p : γ → Bool) (f : γ → δ) :
    ((o.filter p).map f).toList.Sublist ((o'.filter p).map f).toList := by
  cases o with
  | none => exact List.nil_sublist _
  | some a => rw [Option.mem_def.mp (h a rfl)]

/-- The stronger level finds all the failures of a value that the weaker one finds. -/
theorem Weaker.failures (h : s.Weaker s') (g : Gauge β α) (label : String) :
    (s.failures g label).Sublist (s'.failures g label) := by
  unfold Segment.failures
  refine .append (.append (.append ?_ ?_) ?_) ?_
  · exact toList_map_filter_sublist h.greatest _ _
  · exact toList_map_filter_sublist h.least _ _
  · exact toList_map_filter_sublist h.pattern _ _
  · exact toList_map_filter_sublist h.members _ _

end Segment

inductive ScalarConstraint.Weaker : ScalarConstraint → ScalarConstraint → Prop
  | text {s s' : Segment Nat String} (h : s.Weaker s') : Weaker (.text s) (.text s')
  | integer {s s' : Segment Int Int} (h : s.Weaker s') : Weaker (.integer s) (.integer s')
  | float {s s' : Segment Float Empty} (h : s.Weaker s') : Weaker (.float s) (.float s')
  | time {s s' : Segment Int Empty} (h : s.Weaker s') : Weaker (.time s) (.time s')

theorem ScalarConstraint.Weaker.refl (target : ScalarConstraint) : target.Weaker target := by
  cases target with
  | text s => exact .text (.refl s)
  | integer s => exact .integer (.refl s)
  | float s => exact .float (.refl s)
  | time s => exact .time (.refl s)

theorem ScalarConstraint.Weaker.required {target target' : ScalarConstraint}
    (h : target.Weaker target') (hrequired : target.required = true) :
    target'.required = true := by
  cases h with
  | text h | integer h | float h | time h => exact h.required hrequired

/-- A constraint whose rules another one has as well, level by level. -/
inductive Constraint.Weaker : Constraint → Constraint → Prop
  | unchecked (c : Constraint) : Weaker .unchecked c
  | scalar {target target' : ScalarConstraint} (h : target.Weaker target') :
      Weaker (.scalar target) (.scalar target')
  | pointer {head head' : Segment Empty Empty} {target target' : ScalarConstraint}
      (hhead : head.Weaker head') (htarget : target.Weaker target') :
      Weaker (.pointer head target) (.pointer head' target')
  | sequence {head head' : Segment Nat Empty} {element element' : Constraint}
      (hhead : head.Weaker head') (helement : Weaker element element') :
      Weaker (.sequence head element) (.sequence head' element')
  | record {head head' : Segment Empty Empty} (h : head.Weaker head') :
      Weaker (.record head) (.record head')

namespace Constraint.Weaker

theorem refl (c : Constraint) : c.Weaker c := by
  induction c with
  | unchecked => exact .unchecked _
  | scalar target => exact .scalar (.refl target)
  | pointer head target => exact .pointer (.refl head) (.refl target)
  | sequence head element ih => exact .sequence (.refl head) ih
  | record head => exact .record (.refl head)

theorem isUnchecked {c c' : Constraint} (h : c.Weaker c') (hc : c.isUnchecked = false) :
    c'.isUnchecked = false := by
  cases h with
  | unchecked => cases hc
  | scalar | pointer | sequence | record => rfl

end Constraint.Weaker

structure FieldPlan.Weaker (plan plan' : FieldPlan) : Prop where
  owner_eq : plan.owner = plan'.owner
  name_eq : plan.name = plan'.name
  constraint : plan.constraint.Weaker plan'.constraint

/-- Blueprints that differ in their constraints only, those of the one being weaker. -/
structure Blueprint.Weaker (b b' : Blueprint) : Prop where
  name_eq : b.name = b'.name
  fields : List.Forall₂ FieldPlan.Weaker b.fields b'.fields
  recordRules_eq : b.recordRules = b'.recordRules

theorem FieldPlan.Weaker.refl (plan : FieldPlan) : plan.Weaker plan := ⟨rfl, rfl, .refl _⟩

theorem Blueprint.Weaker.refl (b : Blueprint) : b.Weaker b :=
  ⟨rfl, List.forall₂_same.mpr fun plan _ => .refl plan, rfl⟩

/-- Blueprints for the same types, of which those of one roster are weaker. -/
def Roster.Weaker (r r' : Roster TypeTag Blueprint) : Prop :=
  ∀ tag, Option.Rel Blueprint.Weaker (r.find? tag) (r'.find? tag)

theorem Roster.Weaker.find?_cases {r r' : Roster TypeTag Blueprint} (h : r.Weaker r')
    (tag : TypeTag) :
    (r.find? tag = none ∧ r'.find? tag = none) ∨
      ∃ b b', r.find? tag = some b ∧ r'.find? tag = some b' ∧ b.Weaker b' := by
  have htag : Option.Rel Blueprint.Weaker (r.find? tag) (r'.find? tag) := h tag
  generalize r.find? tag = found at htag ⊢
  generalize r'.find? tag = found' at htag ⊢
  cases htag with
  | none => exact .inl ⟨rfl, rfl⟩
  | some hb => exact .inr ⟨_, _, rfl, rfl, hb⟩

theorem Roster.Weaker.refl (r : Roster TypeTag Blueprint) : r.Weaker r := by
  intro tag
  cases r.find? tag with
  | none => exact .none
  | some b => exact .some (.refl b)

structure Terrain.Weaker (t t' : Terrain) : Prop where
  limit_eq : t.limit = t'.limit
  now_eq : t.now = t'.now
  blueprints : t.blueprints.Weaker t'.blueprints

namespace Inquiry

variable (place : Place) (value : Value) (station : Station)

theorem ofRules_sublist {rules rules' : List NamedRule} (h : rules.Sublist rules') :
    (ofRules place value station rules).Sublist (ofRules place value station rules') :=
  h.map _

theorem ofSegment_sublist {β α : Type} {s s' : Segment β α} (h : s.Weaker s')
    (g : Gauge β α) :
    (ofSegment station s g place value).Sublist (ofSegment station s' g place value) :=
  .append ((h.failures g place.label).map _) (ofRules_sublist place value station h.custom)

theorem ofAbsence_sublist {required required' : Bool}
    (h : required = true → required' = true) :
    (ofAbsence required place value).Sublist (ofAbsence required' place value) := by
  cases required with
  | false => exact List.nil_sublist _
  | true => rw [h rfl]

end Inquiry

namespace Terrain

open Inquiry

variable {t t' : Terrain} (place : Place)

theorem scalar_sublist (h : t.Weaker t') {target target' : ScalarConstraint}
    (htarget : target.Weaker target') (value : Value) :
    (t.scalar place target value).Sublist (t'.scalar place target' value) := by
  cases htarget with
  | text hs =>
    cases value with
    | text x => exact ofSegment_sublist place _ _ hs _
    | _ => exact .refl _
  | integer hs =>
    cases value with
    | integer n => exact ofSegment_sublist place _ _ hs _
    | _ => exact .refl _
  | float hs =>
    cases value with
    | float x => exact ofSegment_sublist place _ _ hs _
    | _ => exact .refl _
  | time hs =>
    cases value with
    | time i =>
      rw [scalar, scalar, h.now_eq]
      exact ofSegment_sublist place _ _ hs _
    | _ => exact .refl _

theorem ifPresent_sublist (h : t.Weaker t') {target target' : ScalarConstraint}
    (htarget : target.Weaker target') (nullable : Bool) (value : Value) :
    (t.ifPresent place target nullable value).Sublist
      (t'.ifPresent place target' nullable value) := by
  unfold ifPresent
  cases value.present? nullable with
  | none => exact ofAbsence_sublist place value htarget.required
  | some present => exact scalar_sublist place h htarget present

theorem pointer_sublist (h : t.Weaker t') {head head' : Segment Empty Empty}
    {target target' : ScalarConstraint} (hhead : head.Weaker head')
    (htarget : target.Weaker target') (value : Value) :
    (t.pointer place head target value).Sublist (t'.pointer place head' target' value) := by
  cases value with
  | null => exact ofAbsence_sublist place .null hhead.required
  | just pointee =>
    exact .append (ofRules_sublist place _ _ hhead.custom)
      (ifPresent_sublist place h htarget false pointee)
  | _ =>
    exact .append (ofRules_sublist place _ _ hhead.custom)
      (ifPresent_sublist place h htarget false _)

theorem plain_sublist (h : t.Weaker t') {c c' : Constraint} (hc : c.Weaker c')
    (nullable : Bool) (value : Value) :
    (t.plain nullable place value c).Sublist (t'.plain nullable place value c') := by
  cases hc with
  | unchecked => exact List.nil_sublist _
  | scalar htarget => exact ifPresent_sublist place h htarget nullable value
  | pointer hhead htarget => exact pointer_sublist place h hhead htarget value
  | sequence hhead _ | record hhead =>
    unfold plain
    cases value.present? nullable with
    | none => exact ofAbsence_sublist place value hhead.required
    | some present => exact .refl _

theorem entry_sublist (h : t.Weaker t') (tag : TypeTag) (level : Nat)
    {body body' : Blueprint → List Inquiry}
    (hbody : ∀ {b b'}, b.Weaker b' → (body b).Sublist (body' b')) :
    (t.entry place tag level body).Sublist (t'.entry place tag level body') := by
  unfold entry
  rw [h.limit_eq]
  rcases h.blueprints.find?_cases tag with ⟨hnone, hnone'⟩ | ⟨b, b', hb, hb', hweaker⟩
  · rw [hnone, hnone']
  · rw [hb, hb']
    dsimp only
    split
    · exact .refl _
    · exact hbody hweaker

theorem ofRecordRules_sublist {b b' : Blueprint} (hb : b.Weaker b') (tag : TypeTag)
    (fields : List Value) :
    (ofRecordRules b place tag fields).Sublist (ofRecordRules b' place tag fields) := by
  unfold ofRecordRules
  rw [hb.recordRules_eq, hb.name_eq]

mutual

/-- What is asked about a value by weaker constraints is asked by the others as well. -/
theorem agenda_sublist (h : t.Weaker t') {c c' : Constraint} (hc : c.Weaker c')
    (nullable : Bool) (place : Place) (level : Nat) :
    (value : Value) → (t.agenda c nullable place level value).Sublist
      (t'.agenda c' nullable place level value)
  | .just inner => by
    have hinner := agenda_sublist h hc true place level inner
    cases hc with
    | unchecked =>
      rw [agenda_unchecked]
      exact List.nil_sublist _
    | pointer hhead htarget =>
      simp only [agenda]
      exact pointer_sublist place h hhead htarget (.just inner)
    | scalar _ | sequence _ _ | record _ =>
      simp only [agenda]
      exact hinner
  | .sequence items => by
    have hplain := plain_sublist place h hc nullable (.sequence items)
    cases hc with
    | unchecked =>
      rw [agenda_unchecked]
      exact List.nil_sublist _
    | sequence hhead helement =>
      simp only [agenda]
      exact .append (ofSegment_sublist place _ .sequence hhead _)
        (elements_sublist h helement place 0 level items)
    | scalar _ | pointer _ _ | record _ =>
      simp only [agenda]
      exact hplain
  | .record tag fields => by
    have hplain := plain_sublist place h hc nullable (.record tag fields)
    cases hc with
    | unchecked =>
      rw [agenda_unchecked]
      exact List.nil_sublist _
    | record hhead =>
      simp only [agenda]
      exact .append (ofRules_sublist place _ .record hhead.custom)
        (entry_sublist place h tag level fun hb =>
          .append (fields_sublist h hb.name_eq place tag (level + 1) hb.fields fields)
            (ofRecordRules_sublist place hb tag fields))
    | scalar _ | pointer _ _ | sequence _ _ =>
      simp only [agenda]
      exact hplain
  | .text _ | .integer _ | .float _ | .time _ | .null | .inert => by
    simp only [agenda]
    exact plain_sublist place h hc nullable _

theorem elements_sublist (h : t.Weaker t') {c c' : Constraint} (hc : c.Weaker c')
    (place : Place) (index level : Nat) :
    (items : List Value) → (t.elements c place index level items).Sublist
      (t'.elements c' place index level items)
  | [] => by
    simp only [elements]
    exact .refl _
  | item :: rest => by
    simp only [elements]
    exact .append (agenda_sublist h hc false (place.element index) level item)
      (elements_sublist h hc place (index + 1) level rest)

theorem fields_sublist (h : t.Weaker t') {b b' : Blueprint} (hname : b.name = b'.name)
    (place : Place) (tag : TypeTag) (level : Nat) {plans plans' : List FieldPlan}
    (hplans : List.Forall₂ FieldPlan.Weaker plans plans') :
    (values : List Value) → (t.fields b place tag level values plans).Sublist
      (t'.fields b' place tag level values plans')
  | [] => by
    simp only [fields]
    exact .refl _
  | value :: values => by
    cases hplans with
    | nil =>
      simp only [fields]
      exact .refl _
    | @cons plan plan' _ _ hplan hrest =>
      have hvalues := fields_sublist h hname place tag level hrest values
      simp only [fields, ← hplan.owner_eq, ← hplan.name_eq, ← hname]
      cases hunchecked : plan.constraint.isUnchecked with
      | true =>
        rw [if_pos rfl]
        exact .append (List.nil_sublist _) hvalues
      | false =>
        -- The stronger plan is checked then as well, so a foreign record is refused by both.
        have hunchecked' : plan'.constraint.isUnchecked = false :=
          hplan.constraint.isUnchecked hunchecked
        simp only [hunchecked', Bool.false_eq_true, if_false]
        refine .append ?_ hvalues
        split
        · exact .refl _
        · exact agenda_sublist h hplan.constraint false (place.field plan.name) level value

end

theorem root_sublist (h : t.Weaker t') (tag : TypeTag) (level : Nat) (fields : List Value) :
    (t.root tag level fields).Sublist (t'.root tag level fields) :=
  entry_sublist .root h tag level fun hb =>
    .append (fields_sublist h hb.name_eq .root tag (level + 1) hb.fields fields)
      (ofRecordRules_sublist .root hb tag fields)

end Terrain

namespace Transcript

/-- If many inquiries go without a fault then so do some of them, and bring to light some of
the violations. -/
theorem ofInquiries_sublist {l l' : List Inquiry} (h : l.Sublist l')
    (hfault : (ofInquiries l').fault = none) :
    (ofInquiries l).fault = none ∧ (ofInquiries l).found.Sublist (ofInquiries l').found := by
  induction h with
  | slnil => exact ⟨rfl, .refl _⟩
  | @cons l l' q _ ih =>
    rw [ofInquiries] at hfault ⊢
    obtain ⟨hq, hrest⟩ := fault_andThen_eq_none_iff.mp hfault
    obtain ⟨hnone, hfound⟩ := ih hrest
    rw [andThen_of_no_fault hq]
    exact ⟨hnone, hfound.trans (List.sublist_append_right _ _)⟩
  | @cons_cons l l' q _ ih =>
    rw [ofInquiries] at hfault
    obtain ⟨hq, hrest⟩ := fault_andThen_eq_none_iff.mp hfault
    obtain ⟨hnone, hfound⟩ := ih hrest
    rw [ofInquiries, ofInquiries, andThen_of_no_fault hq, andThen_of_no_fault hq]
    exact ⟨hnone, (List.Sublist.refl _).append hfound⟩

end Transcript

theorem Roster.Weaker.insert {r r' : Roster TypeTag Blueprint} (h : r.Weaker r') {b b' : Blueprint}
    (hb : b.Weaker b') (tag : TypeTag) :
    Roster.Weaker (r.insert tag b) (r'.insert tag b') := by
  intro tag'
  rw [find?_insert, find?_insert]
  split
  · exact .some hb
  · exact h tag'

/-- Inspectors that differ in the constraints of their blueprints only, those of the one
being weaker. -/
structure Inspector.Weaker (i j : Inspector) : Prop where
  lexicon_eq : i.lexicon = j.lexicon
  blueprints : i.blueprints.Weaker j.blueprints

namespace Inspector

/-- What comes of the same attempt to change two inspectors of which one is weaker. -/
inductive Attempted : Except Fault Inspector → Except Fault Inspector → Prop
  | ok {i j : Inspector} (h : i.Weaker j) : Attempted (.ok i) (.ok j)
  | error (f : Fault) : Attempted (.error f) (.error f)

namespace Weaker

variable {i j : Inspector}

theorem contains_eq (h : i.Weaker j) (tag : TypeTag) :
    i.blueprints.contains tag = j.blueprints.contains tag := by
  unfold Roster.contains
  rcases h.blueprints.find?_cases tag with ⟨hnone, hnone'⟩ | ⟨b, b', hb, hb', -⟩
  · rw [hnone, hnone']
  · rw [hb, hb']
    rfl

theorem register (h : i.Weaker j) (t : RecordType) :
    Attempted (i.register t) (j.register t) := by
  unfold Inspector.register
  rw [h.contains_eq, h.lexicon_eq]
  cases j.blueprints.contains t.tag with
  | true => exact .error _
  | false =>
    cases Blueprint.ofType j.lexicon t with
    | error f => exact .error f
    | ok b => exact .ok ⟨h.lexicon_eq, h.blueprints.insert (.refl b) t.tag⟩

theorem registerAll (h : i.Weaker j) (ts : List RecordType) :
    (i.registerAll ts).1.Weaker (j.registerAll ts).1 := by
  induction ts generalizing i j with
  | nil => exact h
  | cons t rest ih =>
    have ht := h.register t
    unfold Inspector.registerAll
    generalize i.register t = x at ht ⊢
    generalize j.register t = y at ht ⊢
    cases ht with
    | ok h => exact ih h
    | error f => exact h

theorem addRule (h : i.Weaker j) (name : String) (rule : Rule) :
    Attempted (i.addRule name rule) (j.addRule name rule) := by
  have hrules : i.rules = j.rules := congrArg Lexicon.rules h.lexicon_eq
  have hsettings : i.settings = j.settings := congrArg Lexicon.settings h.lexicon_eq
  unfold Inspector.addRule
  rw [hrules]
  cases j.rules.insert name rule with
  | error f => exact .error f
  | ok rules => exact .ok ⟨congrArg (Lexicon.mk rules) hsettings, h.blueprints⟩

theorem addRecordRule (h : i.Weaker j) (tag : TypeTag) (rule : RecordRule) :
    Attempted (i.addRecordRule tag rule) (j.addRecordRule tag rule) := by
  unfold Inspector.addRecordRule
  rcases h.blueprints.find?_cases tag with ⟨hnone, hnone'⟩ | ⟨b, b', hb, hb', hweaker⟩
  · rw [hnone, hnone']
    exact .error _
  · have hadd : (b.addRecordRule ⟨tag, rule⟩).Weaker (b'.addRecordRule ⟨tag, rule⟩) :=
      ⟨hweaker.name_eq, hweaker.fields, congrArg (· ++ [_]) hweaker.recordRules_eq⟩
    rw [hb, hb']
    exact .ok ⟨h.lexicon_eq, h.blueprints.insert hadd tag⟩

theorem attempt (h : i.Weaker j) {x y : Except Fault Inspector} (hxy : Attempted x y)
    (answer : Answer) : (i.attempt answer x).1.Weaker (j.attempt answer y).1 := by
  cases hxy with
  | ok h' => exact h'
  | error f => exact h

/-- The weaker inspector is the weaker one after any step as well. -/
theorem step (h : i.Weaker j) (now : Instant) (s : Step) :
    (i.step now s).1.Weaker (j.step now s).1 := by
  cases s with
  | register t => exact h.attempt (h.register t) _
  | registerAll ts => exact h.registerAll ts
  | addRule name rule => exact h.attempt (h.addRule name rule) _
  | addRecordRule tag rule => exact h.attempt (h.addRecordRule tag rule) _
  | _ => exact h

theorem run (h : i.Weaker j) (now : Instant) (steps : List Step) :
    (i.run now steps).1.Weaker (j.run now steps).1 := by
  induction steps generalizing i j with
  | nil => exact h
  | cons s rest ih => exact ih (h.step now s)

theorem terrain (h : i.Weaker j) (now : Instant) : (i.terrain now).Weaker (j.terrain now) where
  limit_eq := congrArg (fun lex : Lexicon => lex.settings.maxDepth) h.lexicon_eq
  now_eq := rfl
  blueprints := h.blueprints

/-- The weaker inspector finds some of the violations that the other one finds, and ends with
a fault only where that one does. -/
theorem violations (h : i.Weaker j) (now : Instant) (r : Record) :
    (∀ vs vs', i.violations now r = .ok vs → j.violations now r = .ok vs' →
      vs.items.Sublist vs'.items) ∧
    ∀ f, i.violations now r = .error f → ∃ f', j.violations now r = .error f' := by
  have hasked := Terrain.root_sublist (h.terrain now) r.tag 0 r.fields
  rw [violations_eq, violations_eq, Transcript.outcome, Transcript.outcome]
  cases hfault' : (j.transcript now r).fault with
  | some f' =>
    constructor
    · intro vs vs' _ hvs'
      cases hvs'
    · exact fun _ _ => ⟨f', rfl⟩
  | none =>
    obtain ⟨hfault, hfound⟩ := Transcript.ofInquiries_sublist hasked hfault'
    rw [transcript, hfault]
    constructor
    · intro vs vs' hvs hvs'
      cases hvs
      cases hvs'
      exact hfound
    · intro f hf
      cases hf

end Weaker

end Inspector

end RecordValidation
