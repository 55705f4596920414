import RecordValidation.Proofs.Guard

/-!
Well-shaped records can not go wrong. Where every record type that annotations lead
to is registered, a survey of a record whose values agree with their declared types
ends with no fault but those that rules bring about and that of being too deep, and
custom rules are applied only to values that their stations are meant for. Both are
shown of one agenda beside the same agenda with guarded rules.
-/

namespace RecordValidation

/-- The record type that a type leads to, through any number of layers. -/
def FieldType.recordTag? : FieldType → Option TypeTag
  | .option inner => inner.recordTag?
  | .boxed inner => inner.recordTag?
  | .sequence element => element.recordTag?
  | .record tag => some tag
  | _ => none

def Shape.recordTag? : Shape → Option TypeTag
  | .optional inner => inner.recordTag?
  | .sequence element => element.recordTag?
  | .record tag => some tag
  | _ => none

theorem FieldType.recordTag?_shape (type : FieldType) :
    type.shape.recordTag? = type.recordTag? := by
  induction type with
  | option inner ih => exact ih
  | boxed inner ih => exact ih
  | sequence element ih => exact ih
  | _ => rfl

/-- Enrolments among which is every record type that an annotation leads to. -/
def Enrolments.Closed (es : Enrolments) : Prop :=
  ∀ {tag e}, es.find? tag = some e → ∀ {name type rules},
    FieldDecl.checked name type rules ∈ e.type.fields → rules ≠ "" →
      ∀ {inner}, type.recordTag? = some inner → es.contains inner = true

/-- A terrain with the blueprints of closed enrolments, beside the same terrain with
guarded rules. -/
structure Guarding (es : Enrolments) (alarm : Rule) (guarded bare : Terrain) : Prop where
  limit : guarded.limit = bare.limit
  now : guarded.now = bare.now
  valid : es.Valid
  closed : es.Closed
  find?_bare : ∀ tag, bare.blueprints.find? tag = (es.find? tag).map Enrolment.blueprint
  find?_guarded : ∀ tag,
    guarded.blueprints.find? tag = (es.find? tag).map (Enrolment.guardedBlueprint alarm)

/-- What is present of a value that agrees with a shape around a scalar is what the
scalar's station is meant for. -/
theorem Enrolments.accepts_of_present? {es : Enrolments} {shape : Shape} {s : Scalar}
    (hcore : shape.core = .scalar s) {value present : Value} {nullable : Bool}
    (hfits : es.fits shape value = true) (hpresent : value.present? nullable = some present) :
    (Station.scalar s).accepts (nullable || shape.nullable) present = true := by
  induction shape generalizing value nullable with
  | scalar s' =>
    cases hcore
    have hkind := kind_of_fits hfits
    rw [Value.present?_of_kind hkind] at hpresent
    split at hpresent
    · cases hpresent
    · next hzero =>
      cases hpresent
      simp only [Station.accepts, Shape.nullable, hkind, beq_self_eq_true, Bool.true_and,
        Bool.or_false]
      cases nullable with
      | true => rfl
      | false => simpa using hzero
  | optional inner ih =>
    cases value with
    | just pointee =>
      simp only [fits] at hfits
      have h := ih hcore hfits hpresent
      rw [Bool.true_or] at h
      rw [Shape.nullable, Bool.or_true]
      exact h
    | null => cases hpresent
    | _ => simp only [fits, Bool.false_eq_true] at hfits
  | sequence element ih => cases hcore
  | record tag => cases hcore
  | inert => cases hcore

namespace Terrain

open Inquiry

variable {es : Enrolments} {alarm : Rule} {t' t : Terrain}
  {binds : Station → NamedRule → Prop} {place : Place}

theorem scalar_alike (hg : Guarding es alarm t' t) {s : Scalar} {target : ScalarConstraint}
    (hstation : target.station = .scalar s)
    (hbinds : ∀ r ∈ target.custom, binds (.scalar s) r) {nullable : Bool} {value : Value}
    (haccepts : (Station.scalar s).accepts nullable value = true) :
    Alike binds (t'.scalar place (target.guarded alarm nullable) value)
      (t.scalar place target value) := by
  have hkind : value.kind = s.kind := by
    simp only [Station.accepts, Bool.and_eq_true, beq_iff_eq] at haccepts
    exact haccepts.1
  cases target with
  | text seg =>
    cases hstation
    cases value with
    | text x => exact Alike.segment haccepts hbinds
    | _ => cases hkind
  | integer seg =>
    cases hstation
    cases value with
    | integer n => exact Alike.segment haccepts hbinds
    | _ => cases hkind
  | float seg =>
    cases hstation
    cases value with
    | float x => exact Alike.segment haccepts hbinds
    | _ => cases hkind
  | time seg =>
    cases hstation
    cases value with
    | time i =>
      simp only [ScalarConstraint.guarded, scalar, hg.now]
      exact Alike.segment haccepts hbinds
    | _ => cases hkind

theorem ifPresent_alike (hg : Guarding es alarm t' t) (place : Place) {shape : Shape}
    {s : Scalar} (hcore : shape.core = .scalar s) {target : ScalarConstraint}
    (hstation : target.station = .scalar s)
    (hbinds : ∀ b ∈ target.custom.map (target.station, ·), binds b.1 b.2) {value : Value}
    (hfits : es.fits shape value = true) (nullable : Bool) :
    Alike binds
      (t'.ifPresent place (target.guarded alarm (nullable || shape.nullable)) nullable value)
      (t.ifPresent place target nullable value) := by
  have hcustom : ∀ r ∈ target.custom, binds (.scalar s) r := by
    intro r hr
    have h := hbinds (target.station, r) (List.mem_map_of_mem hr)
    rwa [hstation] at h
  unfold ifPresent
  cases hpresent : value.present? nullable with
  | none =>
    dsimp only
    rw [ScalarConstraint.required_guarded]
    exact Alike.absence target.required value
  | some present =>
    exact scalar_alike hg hstation hcustom (Enrolments.accepts_of_present? hcore hfits hpresent)

theorem plain_null_alike {c : Constraint} {shape : Shape} (hsuits : c.Suits shape)
    (within nullable : Bool) :
    Alike binds (t'.plain nullable place .null (c.guarded alarm shape within))
      (t.plain nullable place .null c) := by
  induction hsuits generalizing within with
  | unchecked shape =>
    rw [Constraint.guarded_unchecked]
    exact Alike.nil
  | @scalar s target h =>
    simp only [Constraint.guarded, plain, ifPresent, Value.present?,
      ScalarConstraint.required_guarded]
    exact Alike.absence target.required .null
  | optional h hne ih =>
    rw [Constraint.guarded_optional hne]
    exact ih true
  | @pointer inner s head target hcore h => exact Alike.absence head.required .null
  | @sequence element head c h ih => exact Alike.absence head.required .null
  | @record tag head => exact Alike.absence head.required .null

theorem unchecked_alike {shape : Shape} (place : Place) (nullable : Bool) (depth : Nat)
    (value : Value) :
    Alike binds (t'.agenda (Constraint.unchecked.guarded alarm shape nullable) nullable place
      depth value) (t.agenda .unchecked nullable place depth value) := by
  rw [Constraint.guarded_unchecked, agenda_unchecked, agenda_unchecked]
  exact Alike.nil

theorem entry_alike (hg : Guarding es alarm t' t) {tag : TypeTag}
    (hreg : es.contains tag = true) (depth : Nat) {body' body : Blueprint → List Inquiry}
    (hbody : ∀ e, es.find? tag = some e →
      Alike binds (body' (e.guardedBlueprint alarm)) (body e.blueprint)) :
    Alike binds (t'.entry place tag depth body') (t.entry place tag depth body) := by
  obtain ⟨e, he⟩ := Option.isSome_iff_exists.mp hreg
  have he : es.find? tag = some e := he
  unfold entry
  rw [hg.find?_bare, hg.find?_guarded, he, hg.limit]
  dsimp only [Option.map_some]
  split
  · apply Alike.of_sound
    intro q hq
    rw [List.mem_singleton.mp hq]
    exact ⟨_, _, rfl⟩
  · exact hbody e he

theorem recordRules_alike (b : Blueprint) (tag : TypeTag) (fields : List Value) :
    Alike binds (ofRecordRules b place tag fields) (ofRecordRules b place tag fields) := by
  apply Alike.of_sound
  intro q hq
  obtain ⟨rule, -, rfl⟩ := List.mem_map.mp hq
  trivial

end Terrain

/-- Whether a rule stands at a station of an enrolled type. -/
def Enrolments.Binds (es : Enrolments) (station : Station) (r : NamedRule) : Prop :=
  ∃ tag e, es.find? tag = some e ∧ e.blueprint.Binds station r

theorem Constraint.ofText_suits (lex : Lexicon) (shape : Shape) (text : String) :
    (ofText lex shape text).Suits shape := by
  unfold ofText
  split
  · exact .unchecked shape
  · exact ofTokens_suits lex shape _

namespace Terrain

open Inquiry

variable {es : Enrolments} {alarm : Rule} {t' t : Terrain}

mutual

/-- A value that agrees with a shape brings up none but sound inquiries, and gives a
constraint no occasion to raise an alarm. -/
theorem agenda_alike (hg : Guarding es alarm t' t) {c : Constraint} {shape : Shape}
    (hsuits : c.Suits shape) (hbinds : ∀ b ∈ c.bindings, es.Binds b.1 b.2)
    (hreg : ∀ tag, shape.recordTag? = some tag → es.contains tag = true) (place : Place)
    (nullable : Bool) (depth : Nat) :
    (value : Value) → es.fits shape value = true →
      Alike es.Binds (t'.agenda (c.guarded alarm shape nullable) nullable place depth value)
        (t.agenda c nullable place depth value)
  | .just inner, hfits => by
    cases hsuits with
    | unchecked shape => exact unchecked_alike place nullable depth _
    | @optional shape c h hne =>
      simp only [Enrolments.fits] at hfits
      rw [Constraint.guarded_optional hne, agenda_just _ _ _ _ hne,
        agenda_just _ _ _ _ (Constraint.guarded_ne_pointer hne true)]
      exact agenda_alike hg h hbinds hreg place true depth inner hfits
    | @pointer shape s head target hcore h =>
      simp only [Enrolments.fits] at hfits
      simp only [Constraint.bindings, List.forall_mem_append] at hbinds
      simp only [Constraint.guarded, agenda, pointer]
      have hhead : ∀ r ∈ head.custom, es.Binds .pointer r := fun r hr =>
        hbinds.1 (.pointer, r) (List.mem_map_of_mem hr)
      have htarget := ifPresent_alike hg place hcore h hbinds.2 hfits false
      rw [Bool.false_or] at htarget
      exact Alike.append (Alike.rules rfl hhead) htarget
    | _ => simp only [Enrolments.fits, Bool.false_eq_true] at hfits
  | .null, hfits => by
    simp only [agenda]
    exact plain_null_alike hsuits nullable nullable
  | .sequence items, hfits => by
    cases hsuits with
    | unchecked shape => exact unchecked_alike place nullable depth _
    | @sequence element head c h =>
      simp only [Enrolments.fits] at hfits
      simp only [Constraint.bindings, List.forall_mem_append] at hbinds
      simp only [Constraint.guarded, agenda]
      have hhead : ∀ r ∈ head.custom, es.Binds .sequence r := fun r hr =>
        hbinds.1 (.sequence, r) (List.mem_map_of_mem hr)
      exact Alike.append (Alike.segment rfl hhead)
        (elements_alike hg h hbinds.2 hreg place 0 depth items hfits)
    | _ => simp only [Enrolments.fits, Bool.false_eq_true] at hfits
  | .record tag fields, hfits => by
    cases hsuits with
    | unchecked shape => exact unchecked_alike place nullable depth _
    | @record tag' head =>
      simp only [Enrolments.fits, Bool.and_eq_true, beq_iff_eq] at hfits
      obtain ⟨rfl, hfields⟩ := hfits
      simp only [Constraint.guarded, agenda]
      have hhead : ∀ r ∈ head.custom, es.Binds .record r := fun r hr =>
        hbinds (.record, r) (List.mem_map_of_mem hr)
      refine Alike.append (Alike.rules rfl hhead)
        (entry_alike hg (hreg tag rfl) depth fun e he => ?_)
      rw [he] at hfields
      obtain rfl := hg.valid.tag_eq he
      exact Alike.append
        (fields_alike hg he _ _ place (depth + 1) fields e.type.fields (fun _ h => h) hfields)
        (recordRules_alike e.blueprint e.type.tag fields)
    | _ => simp only [Enrolments.fits, Bool.false_eq_true] at hfits
  | .text _, hfits | .integer _, hfits | .float _, hfits | .time _, hfits | .inert, hfits => by
    cases hsuits with
    | unchecked shape => exact unchecked_alike place nullable depth _
    | @scalar s target h =>
      simp only [Constraint.guarded, agenda, plain]
      have htarget := ifPresent_alike hg place rfl h hbinds hfits nullable
      simp only [Shape.nullable, Bool.or_false] at htarget
      exact htarget
    | _ => simp only [Enrolments.fits, Bool.false_eq_true] at hfits

theorem elements_alike (hg : Guarding es alarm t' t) {c : Constraint} {shape : Shape}
    (hsuits : c.Suits shape) (hbinds : ∀ b ∈ c.bindings, es.Binds b.1 b.2)
    (hreg : ∀ tag, shape.recordTag? = some tag → es.contains tag = true) (place : Place)
    (index depth : Nat) :
    (items : List Value) → es.allFit shape items = true →
      Alike es.Binds (t'.elements (c.guarded alarm shape false) place index depth items)
        (t.elements c place index depth items)
  | [], _ => by
    simp only [elements]
    exact Alike.nil
  | item :: rest, hfits => by
    simp only [Enrolments.allFit, Bool.and_eq_true] at hfits
    simp only [elements]
    exact Alike.append
      (agenda_alike hg hsuits hbinds hreg (place.element index) false depth item hfits.1)
      (elements_alike hg hsuits hbinds hreg place (index + 1) depth rest hfits.2)

theorem fields_alike (hg : Guarding es alarm t' t) {e : Enrolment} {tag : TypeTag}
    (he : es.find? tag = some e) (b' b : Blueprint) (place : Place) (depth : Nat) :
    (values : List Value) → (decls : List FieldDecl) → (∀ decl ∈ decls, decl ∈ e.type.fields) →
      es.fieldsFit values decls = true →
      Alike es.Binds
        (t'.fields b' place tag depth values (decls.map (.guardedOfDecl alarm e.lexicon tag)))
        (t.fields b place tag depth values (decls.map (.ofDecl e.lexicon tag)))
  | [], _, _, _ => by
    simp only [fields]
    exact Alike.nil
  | _ :: _, [], _, _ => by
    simp only [List.map_nil, fields]
    exact Alike.nil
  | value :: values, decl :: decls, hmem, hfits => by
    obtain ⟨hdecl, hrest⟩ := List.forall_mem_cons.mp hmem
    simp only [Enrolments.fieldsFit, Bool.and_eq_true] at hfits
    simp only [List.map_cons, fields]
    refine Alike.append ?_ (fields_alike hg he b' b place depth values decls hrest hfits.2)
    cases decl with
    | skipped name => exact Alike.nil
    | checked name type rules =>
      simp only [FieldPlan.guardedOfDecl, FieldPlan.ofDecl, ne_eq, not_true, if_false,
        ite_isUnchecked]
      -- An empty annotation may lead to types that are not registered, but not into them.
      by_cases hrules : rules = ""
      · simp only [Constraint.ofText, if_pos hrules]
        exact unchecked_alike (place.field name) false depth value
      · have hbinds : ∀ b ∈ (Constraint.ofText e.lexicon type.shape rules).bindings,
            es.Binds b.1 b.2 := fun b hb =>
          ⟨tag, e, he, _, List.mem_map_of_mem hdecl, hb⟩
        have hreg : ∀ inner, type.shape.recordTag? = some inner → es.contains inner = true := by
          intro inner hinner
          rw [FieldType.recordTag?_shape] at hinner
          exact hg.closed he hdecl hrules hinner
        exact agenda_alike hg (Constraint.ofText_suits e.lexicon type.shape rules) hbinds hreg
          (place.field name) false depth value hfits.1

end

end Terrain

/-- The faults that a record can bring about although it is well shaped. -/
inductive Fault.Late : Fault → Prop
  | tooDeep (label : String) (limit : Nat) : Late (.tooDeep label limit)
  | rule (label name : String) (source : RuleError) : Late (.rule label name source)
  | recordRule (model : String) (source : RuleError) : Late (.recordRule model source)

/-- A custom rule at a station that failed, and not for being a rule for values of
one kind at a value of another. -/
def Fault.FromRule (binds : Station → NamedRule → Prop) : Fault → Prop
  | .rule label name source => ∃ station r value, binds station r ∧ r.name = name ∧
      station.accepts true value = true ∧ r.rule label value = .error source ∧
      ¬station.Typed r.rule
  | _ => True

namespace Inquiry

variable {place : Place} {f : Fault}

theorem custom_answer_eq_error {value : Value} {station : Station} {r : NamedRule}
    (h : answer (.custom place value station r) = .error f) :
    ∃ source, r.rule place.label value = .error source ∧
      f = .rule place.label r.name source := by
  simp only [answer] at h
  cases hr : r.rule place.label value with
  | ok found =>
    rw [hr] at h
    cases found <;> cases h
  | error source =>
    rw [hr] at h
    cases h
    exact ⟨source, rfl, rfl⟩

theorem record_answer_eq_error {tag : TypeTag} {fields : List Value} {model : String}
    {r : OwnedRule} (h : answer (.record place tag fields model r) = .error f) :
    ∃ source, f = .recordRule model source := by
  simp only [answer] at h
  cases hr : r.apply tag fields with
  | ok found =>
    rw [hr] at h
    cases found <;> cases h
  | error source =>
    rw [hr] at h
    cases h
    exact ⟨source, rfl⟩

theorem Sound.fault {binds : Station → NamedRule → Prop} {q : Inquiry} (h : q.Sound binds)
    (hf : q.answer = .error f) : f.Late ∧ f.FromRule binds := by
  cases q with
  | required place value => cases hf
  | builtin place value v => cases hf
  | custom place value station r =>
    obtain ⟨hbinds, haccepts⟩ := h
    obtain ⟨source, hsource, rfl⟩ := custom_answer_eq_error hf
    refine ⟨.rule place.label r.name source, station, r, value, hbinds, rfl, haccepts, hsource, ?_⟩
    intro htyped
    obtain ⟨found, hfound⟩ := htyped.answers haccepts place.label
    rw [hsource] at hfound
    cases hfound
  | record place tag fields model r =>
    obtain ⟨source, rfl⟩ := record_answer_eq_error hf
    exact ⟨.recordRule model source, trivial⟩
  | refusal place f' =>
    obtain ⟨label, limit, rfl⟩ := h
    cases hf
    exact ⟨.tooDeep label limit, trivial⟩

end Inquiry

/-- A roster with a function applied to its entries, under the same keys. -/
def Roster.mapValues {κ α β : Type} (f : α → β) (r : Roster κ α) : Roster κ β :=
  ⟨r.entries.map fun entry => (entry.1, f entry.2)⟩

theorem Roster.find?_mapValues {κ α β : Type} [DecidableEq κ] (f : α → β) (r : Roster κ α)
    (key : κ) : (r.mapValues f).find? key = (r.find? key).map f := by
  unfold find? mapValues
  dsimp only
  induction r.entries with
  | nil => rfl
  | cons entry rest ih =>
    rw [List.map_cons, lookup, lookup, ih]
    split <;> rfl

namespace Inspector

/-- The inspector that keeps all custom rules behind guards. -/
def guarded (i : Inspector) (es : Enrolments) (alarm : Rule) : Inspector :=
  { i with blueprints := es.mapValues (Enrolment.guardedBlueprint alarm) }

/-- Whether a rule stands at a station of a type that is registered. -/
def Binds (i : Inspector) (station : Station) (r : NamedRule) : Prop :=
  ∃ tag b, i.blueprints.find? tag = some b ∧ b.Binds station r

theorem Built.guarding {i : Inspector} {es : Enrolments} (h : Built i es) (hclosed : es.Closed)
    (alarm : Rule) (now : Instant) :
    Guarding es alarm ((i.guarded es alarm).terrain now) (i.terrain now) where
  limit := rfl
  now := rfl
  valid := h.valid
  closed := hclosed
  find?_bare := h.find?_blueprints
  find?_guarded := Roster.find?_mapValues _ es

theorem Built.contains_eq_isRegistered {i : Inspector} {es : Enrolments} (h : Built i es)
    (tag : TypeTag) : es.contains tag = i.isRegistered tag := by
  unfold isRegistered Roster.contains
  rw [h.find?_blueprints, Option.isSome_map]

theorem root_alike {i : Inspector} {es : Enrolments} (h : Built i es) (hclosed : es.Closed)
    (alarm : Rule) (now : Instant) {r : Record} (hregistered : i.isRegistered r.tag = true)
    (hfits : es.fits (.record r.tag) (.record r.tag r.fields) = true) :
    Alike es.Binds (((i.guarded es alarm).terrain now).root r.tag 0 r.fields)
      ((i.terrain now).root r.tag 0 r.fields) := by
  have hg := h.guarding hclosed alarm now
  obtain ⟨tag, fields⟩ := r
  have hreg : es.contains tag = true := (h.contains_eq_isRegistered tag).trans hregistered
  simp only [Enrolments.fits, beq_self_eq_true, Bool.true_and] at hfits
  refine Terrain.entry_alike hg hreg 0 fun e he => ?_
  rw [he] at hfits
  obtain rfl := hg.valid.tag_eq he
  exact Alike.append
    (Terrain.fields_alike hg he _ _ .root 1 fields e.type.fields (fun _ h => h) hfits)
    (Terrain.recordRules_alike e.blueprint e.type.tag fields)

theorem Built.binds {i : Inspector} {es : Enrolments} (h : Built i es) {station : Station}
    {r : NamedRule} (hbinds : es.Binds station r) : i.Binds station r := by
  obtain ⟨tag, e, he, hblueprint⟩ := hbinds
  refine ⟨tag, e.blueprint, ?_, hblueprint⟩
  rw [h.find?_blueprints, he]
  rfl

theorem fault_of_error {i : Inspector} {now : Instant} {r : Record} {f : Fault}
    (h : i.violation? now r = .error f ∨ i.violations now r = .error f) :
    (i.transcript now r).fault = some f := by
  rw [violation?_eq, violations_eq] at h
  revert h
  generalize i.transcript now r = t
  obtain ⟨found, fault⟩ := t
  rintro (h | h)
  · cases found with
    | nil =>
      cases fault with
      | none => cases h
      | some g =>
        cases h
        rfl
    | cons v rest => cases h
  · cases fault with
    | none => cases h
    | some g =>
      cases h
      rfl

/-- Records whose values agree with their declared types can not go wrong, where all
record types that annotations lead to are registered. Rules and depth are all that can
fail; custom rules may do anything at values that their stations are not meant for,
since they are not applied to these; and a rule for values of one kind does not fail at
a station for this kind. -/
theorem fitting_record_safe {i : Inspector} {es : Enrolments} (h : Built i es)
    (hclosed : es.Closed) (now : Instant) {r : Record}
    (hregistered : i.isRegistered r.tag = true)
    (hfits : es.fits (.record r.tag) (.record r.tag r.fields) = true) :
    (∀ f, i.violation? now r = .error f ∨ i.violations now r = .error f → f.Late) ∧
    (∀ alarm, (i.guarded es alarm).violation? now r = i.violation? now r ∧
      (i.guarded es alarm).violations now r = i.violations now r) ∧
    (∀ label name source, i.violation? now r = .error (.rule label name source) ∨
        i.violations now r = .error (.rule label name source) →
      ∃ station b value, i.Binds station b ∧ b.name = name ∧
        station.accepts true value = true ∧ b.rule label value = .error source ∧
        ¬station.Typed b.rule) := by
  have hfault : ∀ f, i.violation? now r = .error f ∨ i.violations now r = .error f →
      f.Late ∧ f.FromRule es.Binds := by
    intro f hf
    obtain ⟨q, hq, hanswer⟩ := Transcript.exists_answer_of_fault (fault_of_error hf)
    have halike := root_alike h hclosed (fun _ _ => .ok none) now hregistered hfits
    exact (halike.sound q hq).fault hanswer
  refine ⟨fun f hf => (hfault f hf).1, fun alarm => ?_, fun label name source hf => ?_⟩
  · have halike := root_alike h hclosed alarm now hregistered hfits
    have htranscript : (i.guarded es alarm).transcript now r = i.transcript now r :=
      halike.transcript_eq
    rw [violation?_eq, violation?_eq, violations_eq, violations_eq, htranscript]
    exact ⟨rfl, rfl⟩
  · obtain ⟨station, b, value, hbinds, hname, haccepts, herror, htyped⟩ :=
      (hfault _ hf).2
    exact ⟨station, b, value, h.binds hbinds, hname, haccepts, herror, htyped⟩

theorem closed_user (lex : Lexicon) :
    Enrolments.Closed (Roster.insert .empty RecordType.user.tag ⟨.user, lex, []⟩) := by
  intro tag e he name type rules hdecl hrules inner hinner
  rw [Roster.find?_insert] at he
  split at he
  · cases he
    simp only [RecordType.user, List.mem_cons, FieldDecl.checked.injEq, List.not_mem_nil,
      reduceCtorEq, or_false] at hdecl
    rcases hdecl with ⟨-, rfl, -⟩ | ⟨-, rfl, -⟩ | ⟨-, rfl, -⟩
    · cases hinner
    · cases hinner
    · cases hinner
      rfl
  · cases he

theorem fitting_record_safe_user :
    ∃ (i : Inspector) (es : Enrolments), Built i es ∧ es.Closed ∧
      i.violations ⟨0⟩ .user = .error (.tooDeep "boss" 1) ∧
      ∀ alarm, (i.guarded es alarm).violations ⟨0⟩ .user = i.violations ⟨0⟩ .user := by
  obtain ⟨i, hregister⟩ : ∃ i, register { settings := { maxDepth := 1 } } .user = .ok i :=
    (isSome_toOption _).mp (by cbv)
  have hbuilt := Built.register .user (.new { maxDepth := 1 }) hregister
  obtain ⟨-, -, rfl⟩ := register_eq_ok_iff.mp hregister
  have hsafe := fitting_record_safe hbuilt (closed_user _) ⟨0⟩ (r := .user) rfl (by cbv)
  exact ⟨_, _, hbuilt, closed_user _, by cbv, fun alarm => (hsafe.2.1 alarm).2⟩

end Inspector

end RecordValidation
