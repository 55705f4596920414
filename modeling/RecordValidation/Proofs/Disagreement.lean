import RecordValidation.Proofs.Age
import RecordValidation.Proofs.Provenance

/-!
Values that are not what was declared. Where a survey finds another kind of value than the
declared one it is refused, unless it is a zero. A record is a record here: it is judged by the
blueprint of its own type, and no one looks at which type was declared.
-/

namespace RecordValidation

namespace Value

variable {v : Value}

theorem bare_of_ne_just (hjust : ∀ inner, v ≠ .just inner) : v.bare = v := by
  cases v with
  | just inner => exact absurd rfl (hjust inner)
  | _ => rfl

/-- What is in the layers is present, unless it is a zero. -/
theorem present?_of_bare (hzero : v.bare.isZero = false) (nullable : Bool) :
    v.present? nullable = some v.bare := by
  induction v using bare.induct generalizing nullable with
  | case1 inner ih => exact ih hzero true
  | case2 v hjust =>
    rw [bare_of_ne_just hjust] at hzero ⊢
    cases v with
    | just inner => exact absurd rfl (hjust inner)
    | null => cases hzero
    | _ => simp only [present?, hzero, Bool.and_false, Bool.false_eq_true, if_false]

end Value

namespace Constraint

variable {shape : Shape} {c : Constraint}

/-- The kind of value that a constraint is for, within optional layers. -/
def kind : Constraint → Kind
  | .unchecked => .inert
  | .scalar target | .pointer _ target => target.kind
  | .sequence _ _ => .sequence
  | .record _ => .record

theorem kind_of_station {s : Scalar} {target : ScalarConstraint}
    (h : target.station = .scalar s) : target.kind = s.kind := by
  cases target <;> cases h <;> rfl

namespace Suits

theorem kind_eq (h : c.Suits shape) (hchecked : c.isUnchecked = false) :
    c.kind = shape.core.kind := by
  induction h with
  | unchecked shape => cases hchecked
  | scalar h => exact kind_of_station h
  | optional h hne ih => exact ih hchecked
  | pointer hcore h =>
    rw [Shape.core_optional, hcore]
    exact kind_of_station h
  | sequence h => rfl
  | record => rfl

theorem of_sequence {head : Segment Nat Empty} {element : Shape}
    (h : (Constraint.sequence head c).Suits shape) (hcore : shape.core = .sequence element) :
    c.Suits element := by
  induction shape with
  | optional inner ih =>
    cases h with
    | optional h hne => exact ih h hcore
  | sequence element' ih =>
    cases hcore
    cases h with
    | sequence h => exact h
  | _ => cases hcore

theorem exists_eq_record {declared : TypeTag} (h : c.Suits shape)
    (hchecked : c.isUnchecked = false) (hcore : shape.core = .record declared) :
    ∃ head, c = .record head := by
  have hkind : c.kind = .record := by
    rw [h.kind_eq hchecked, hcore]
    rfl
  cases c with
  | record head => exact ⟨head, rfl⟩
  | scalar target | pointer head target => cases target <;> cases hkind
  | _ => cases hkind

end Suits

end Constraint

namespace Terrain

open Inquiry

variable (t : Terrain) (place : Place) (level : Nat)

section

variable {target : ScalarConstraint} {c : Constraint} {v : Value}

theorem scalar_of_kind_ne (hkind : v.kind ≠ target.kind) :
    t.scalar place target v = ofMismatch place target.kind v := by
  cases target <;> cases v <;> first | rfl | exact absurd rfl hkind

theorem ifPresent_of_kind_ne (hzero : v.bare.isZero = false) (hkind : v.bare.kind ≠ target.kind)
    (nullable : Bool) : t.ifPresent place target nullable v =
      ofMismatch place target.kind v.bare := by
  rw [ifPresent, Value.present?_of_bare hzero]
  exact t.scalar_of_kind_ne place hkind

theorem pointer_of_kind_ne (head : Segment Empty Empty) (hzero : v.bare.isZero = false)
    (hkind : v.bare.kind ≠ target.kind) : t.pointer place head target v =
      ofRules place v .pointer head.custom ++ ofMismatch place target.kind v.bare := by
  cases v with
  | null => cases hzero
  | just pointee =>
    rw [pointer, t.ifPresent_of_kind_ne place (v := pointee) hzero hkind]
    rfl
  | _ =>
    rw [pointer, t.ifPresent_of_kind_ne place hzero hkind]
    all_goals nofun

theorem agenda_pointer (head : Segment Empty Empty) (nullable : Bool) :
    t.agenda (.pointer head target) nullable place level v = t.pointer place head target v := by
  cases v <;> simp only [agenda, plain]

theorem plain_of_kind_ne (hchecked : c.isUnchecked = false)
    (hpointer : ∀ head target, c ≠ .pointer head target) (hzero : v.bare.isZero = false)
    (hkind : v.bare.kind ≠ c.kind) (nullable : Bool) :
    t.plain nullable place v c = ofMismatch place c.kind v.bare := by
  cases c with
  | unchecked => cases hchecked
  | scalar target => exact t.ifPresent_of_kind_ne place hzero hkind nullable
  | pointer head target => exact absurd rfl (hpointer head target)
  | sequence head element =>
    rw [plain, Value.present?_of_bare hzero]
    rfl
  | record head =>
    rw [plain, Value.present?_of_bare hzero]
    rfl

/-- Sequences and records are only looked into where they are expected. -/
theorem agenda_eq_plain (hjust : ∀ inner, v ≠ .just inner) (hkind : v.kind ≠ c.kind)
    (nullable : Bool) : t.agenda c nullable place level v = t.plain nullable place v c := by
  cases v with
  | just inner => exact absurd rfl (hjust inner)
  | sequence items =>
    cases c with
    | sequence head element => exact absurd rfl hkind
    | _ => simp only [agenda]
  | record tag fields =>
    cases c with
    | record head => exact absurd rfl hkind
    | _ => simp only [agenda]
  | _ => simp only [agenda]

/-- The layers around a value of another kind make no difference to its refusal. -/
theorem agenda_of_kind_ne_of_no_pointer (hchecked : c.isUnchecked = false)
    (hpointer : ∀ head target, c ≠ .pointer head target) (hzero : v.bare.isZero = false)
    (hkind : v.bare.kind ≠ c.kind) (nullable : Bool) :
    t.agenda c nullable place level v = ofMismatch place c.kind v.bare := by
  induction v using Value.bare.induct generalizing nullable with
  | case1 inner ih =>
    rw [agenda_just t nullable place level hpointer]
    exact ih hzero hkind true
  | case2 v hjust =>
    have hkind' : v.kind ≠ c.kind := by
      rw [Value.bare_of_ne_just hjust] at hkind
      exact hkind
    rw [t.agenda_eq_plain place level hjust hkind']
    exact t.plain_of_kind_ne place hchecked hpointer hzero hkind nullable

/-- The inquiries into a value of another kind end with its refusal. Only the rules of a
pointer are put before that. -/
theorem agenda_of_kind_ne (hchecked : c.isUnchecked = false) (hzero : v.bare.isZero = false)
    (hkind : v.bare.kind ≠ c.kind) (nullable : Bool) :
    t.agenda c nullable place level v =
      ofRules place v .pointer c.headRules ++ ofMismatch place c.kind v.bare := by
  cases c with
  | unchecked => cases hchecked
  | pointer head target =>
    rw [agenda_pointer]
    exact t.pointer_of_kind_ne place head hzero hkind
  | _ =>
    apply t.agenda_of_kind_ne_of_no_pointer place level hchecked _ hzero hkind nullable
    intro head target hc
    cases hc

/-- A record is entered by its own type, whichever one was declared. -/
theorem agenda_record (head : Segment Empty Empty) {tag : TypeTag} {fields : List Value}
    (hbare : v.bare = .record tag fields) (nullable : Bool) :
    t.agenda (.record head) nullable place level v =
      ofRules place (.record tag fields) .record head.custom ++
        t.entry place tag level
          fun b => (Stage.record b place tag (level + 1) fields).agenda t := by
  have hpointer : ∀ head' target, Constraint.record head ≠ .pointer head' target := by
    intro head' target hc
    cases hc
  induction v using Value.bare.induct generalizing nullable with
  | case1 inner ih =>
    rw [agenda_just t nullable place level hpointer]
    exact ih hbare true
  | case2 v hjust =>
    rw [Value.bare_of_ne_just hjust] at hbare
    subst hbare
    simp only [agenda, Stage.agenda]

theorem agenda_isInfix_elements {c : Constraint} {start index : Nat} {items : List Value}
    {item : Value} (hitem : items[index]? = some item) :
    t.agenda c false (place.element (start + index)) level item <:+:
      t.elements c place start level items := by
  induction items generalizing start index with
  | nil => cases hitem
  | cons first rest ih =>
    rw [elements]
    cases index with
    | zero =>
      cases hitem
      exact (List.prefix_append _ _).isInfix
    | succ index =>
      -- The rest is counted from one further on.
      have hrest : t.agenda c false (place.element (start + 1 + index)) level item <:+:
          t.elements c place (start + 1) level rest := ih hitem
      rw [Nat.add_assoc, Nat.add_comm 1 index] at hrest
      exact hrest.trans (List.suffix_append _ _).isInfix

theorem agenda_isInfix_fields {b : Blueprint} {tag : TypeTag} {index : Nat} {fields : List Value}
    {plans : List FieldPlan} {plan : FieldPlan} (hplan : plans[index]? = some plan)
    (hvalue : fields[index]? = some v) (howner : plan.owner = tag) :
    t.agenda plan.constraint false (place.field plan.name) level v <:+:
      t.fields b place tag level fields plans := by
  induction fields generalizing plans index with
  | nil => cases hvalue
  | cons first rest ih =>
    cases plans with
    | nil => cases hplan
    | cons plan' plans =>
      rw [fields]
      cases index with
      | zero =>
        cases hplan
        cases hvalue
        rw [howner, if_neg (not_not_intro rfl), ite_isUnchecked]
        exact (List.prefix_append _ _).isInfix
      | succ index =>
        have hplan' : plans[index]? = some plan := hplan
        have hvalue' : rest[index]? = some v := hvalue
        exact (ih hplan' hvalue').trans (List.suffix_append _ _).isInfix

end

variable {t}

/-- What is asked of a stage is one run of what is asked of a stage that leads to it. -/
theorem Leads.agenda_isInfix {s s' : Stage} (h : t.Leads s s') : s'.agenda t <:+: s.agenda t := by
  cases h with
  | just hne nullable place level inner =>
    rw [Stage.agenda, Stage.agenda, agenda_just t nullable place level hne]
  | @element head c nullable place level items index item hitem =>
    have helements : t.agenda c false (place.element (0 + index)) level item <:+:
        t.elements c place 0 level items := t.agenda_isInfix_elements place level hitem
    rw [Nat.zero_add] at helements
    simp only [Stage.agenda, agenda]
    exact helements.trans (List.suffix_append _ _).isInfix
  | enter head nullable place fields hb hlevel =>
    rw [Stage.agenda, agenda_record t place _ head rfl, entry, hb]
    simp only [Nat.not_le.mpr hlevel, if_false]
    exact (List.suffix_append _ _).isInfix
  | field b place level hplan hvalue howner =>
    have hfields := t.agenda_isInfix_fields (b := b) place level hplan hvalue howner
    exact hfields.trans (List.prefix_append _ _).isInfix

theorem Reaches.agenda_isInfix {s s' : Stage} (h : t.Reaches s s') :
    s'.agenda t <:+: s.agenda t := by
  induction h with
  | refl => exact List.infix_rfl
  | step _ hleads ih => exact hleads.agenda_isInfix.trans ih

theorem Reaches.bare {s : Stage} {c : Constraint}
    (hpointer : ∀ head target, c ≠ .pointer head target) {nullable : Bool} {place : Place}
    {level : Nat} {v : Value} (h : t.Reaches s (.value c nullable place level v)) :
    ∃ nullable', t.Reaches s (.value c nullable' place level v.bare) := by
  induction v using Value.bare.induct generalizing nullable with
  | case1 inner ih => exact ih (h.step (.just hpointer nullable place level inner))
  | case2 v hjust =>
    rw [Value.bare_of_ne_just hjust]
    exact ⟨nullable, h⟩

end Terrain

theorem Transcript.outcome_of_refusal (earlier later : List Inquiry) (place : Place) (f : Fault) :
    (ofInquiries (earlier ++ .refusal place f :: later)).outcome =
      .error ((ofInquiries earlier).fault.getD f) := by
  rw [ofInquiries_append]
  cases h : (ofInquiries earlier).fault with
  | some f' =>
    rw [andThen_of_fault h, outcome, h]
    rfl
  | none =>
    rw [andThen_of_no_fault h]
    rfl

namespace Inspector

variable {i : Inspector} {es : Enrolments} {now : Instant} {r : Record}

theorem Reaches.agenda_isInfix {s : Stage} (h : i.Reaches now r s) :
    s.agenda (i.terrain now) <:+: (i.terrain now).root r.tag 0 r.fields := by
  obtain ⟨b, hb, hdepth, hreach⟩ := h
  have hroot : (i.terrain now).root r.tag 0 r.fields =
      (Stage.record b .root r.tag 1 r.fields).agenda (i.terrain now) := by
    have hfind : (i.terrain now).blueprints.find? r.tag = some b := hb
    have hlimit : ¬(i.terrain now).limit ≤ 0 := Nat.not_le.mpr hdepth
    rw [Terrain.root, Terrain.entry, hfind]
    simp only [hlimit, if_false]
    rfl
  rw [hroot]
  exact hreach.agenda_isInfix

/-- A record is entered by the blueprint of what was registered as its own type. -/
theorem Built.enrolled_of_reaches (h : Built i es) {b : Blueprint} {place : Place}
    {tag : TypeTag} {level : Nat} {fields : List Value}
    (hreach : i.Reaches now r (.record b place tag level fields)) :
    ∃ e, es.find? tag = some e ∧ e.type.tag = tag ∧ b = e.blueprint := by
  have hb : i.blueprints.find? tag = some b := Stage.founded_of_reaches hreach
  rw [h.find?_blueprints] at hb
  obtain ⟨e, he, rfl⟩ := Option.map_eq_some_iff.mp hb
  exact ⟨e, he, h.valid.tag_eq he, rfl⟩

/-- The positions where a survey meets a value, with the declared shapes and the constraints
there: fields of the records that it enters, and elements of the sequences that it meets. -/
inductive Meets (i : Inspector) (es : Enrolments) (now : Instant) (r : Record) :
    Place → Shape → Constraint → Nat → Value → Prop
  | field {b : Blueprint} {place : Place} {tag : TypeTag} {level : Nat} {fields : List Value}
      {e : Enrolment} {index : Nat} {name : String} {type : FieldType} {rules : String}
      {v : Value} (hreach : i.Reaches now r (.record b place tag level fields))
      (he : es.find? tag = some e)
      (hdecl : e.type.fields[index]? = some (.checked name type rules))
      (hvalue : fields[index]? = some v) :
      i.Meets es now r (place.field name) type.shape (.ofText e.lexicon type.shape rules) level v
  | element {place : Place} {shape element : Shape} {head : Segment Nat Empty} {c : Constraint}
      {level : Nat} {v : Value} {items : List Value} {index : Nat} {item : Value}
      (h : i.Meets es now r place shape (.sequence head c) level v)
      (hcore : shape.core = .sequence element) (hbare : v.bare = .sequence items)
      (hitem : items[index]? = some item) :
      i.Meets es now r (place.element index) element c level item

namespace Meets

variable {place : Place} {shape : Shape} {c : Constraint} {level : Nat} {v : Value}

theorem suits (h : i.Meets es now r place shape c level v) : c.Suits shape := by
  induction h with
  | field hreach he hdecl hvalue => exact Constraint.ofText_suits _ _ _
  | element h hcore hbare hitem ih => exact ih.of_sequence hcore

theorem reaches (h : i.Meets es now r place shape c level v) (hbuilt : Built i es) :
    i.Reaches now r (.value c false place level v) := by
  induction h with
  | @field b place tag level fields e index name type rules v hreach he hdecl hvalue =>
    obtain ⟨e', he', htag, rfl⟩ := hbuilt.enrolled_of_reaches hreach
    cases he.symm.trans he'
    have hplan : e.blueprint.fields[index]? =
        some ⟨e.type.tag, name, .ofText e.lexicon type.shape rules⟩ := by
      rw [Enrolment.blueprint, List.getElem?_map, hdecl]
      rfl
    obtain ⟨b, hb, hdepth, hreach⟩ := hreach
    exact ⟨b, hb, hdepth, hreach.step (.field _ _ _ hplan hvalue htag)⟩
  | @element place shape element head c level v items index item h hcore hbare hitem ih =>
    obtain ⟨b, hb, hdepth, hreach⟩ := ih
    -- Elements are met once the layers around their sequence are off, which no pointer is in.
    have hpointer : ∀ head' target, Constraint.sequence head c ≠ .pointer head' target := by
      intro head' target hc
      cases hc
    obtain ⟨nullable, hreach⟩ := hreach.bare hpointer
    rw [hbare] at hreach
    exact ⟨b, hb, hdepth, hreach.step (.element head c nullable place level hitem)⟩

end Meets

open Inquiry

/-- A value of another kind than the declared one ends the survey, unless it is a zero or an
earlier fault comes before it: nothing behind it is asked, and the fault names its place. Where
a record was declared, any record is entered, by the blueprint of its own type. -/
theorem disagreements_refused (hbuilt : Built i es) {place : Place} {shape : Shape}
    {c : Constraint} {level : Nat} {v : Value} (h : i.Meets es now r place shape c level v)
    (hchecked : c.isUnchecked = false) :
    (v.bare.isZero = false → v.bare.kind ≠ shape.core.kind →
      ∃ earlier later,
        (i.terrain now).root r.tag 0 r.fields = earlier ++
          .refusal place (.mismatch place.label shape.core.kind v.bare.kind) :: later ∧
        i.violations now r = .error ((Transcript.ofInquiries earlier).fault.getD
          (.mismatch place.label shape.core.kind v.bare.kind))) ∧
    ∀ declared tag fields, shape.core = .record declared → v.bare = .record tag fields →
      ∃ head earlier later, c = .record head ∧
        (i.terrain now).root r.tag 0 r.fields = earlier ++
          (ofRules place (.record tag fields) .record head.custom ++
            (i.terrain now).entry place tag level fun b =>
              (Stage.record b place tag (level + 1) fields).agenda (i.terrain now)) ++ later := by
  have hsuits : c.Suits shape := h.suits
  obtain ⟨before, after, hroot⟩ := (h.reaches hbuilt).agenda_isInfix
  rw [Stage.agenda] at hroot
  constructor
  · intro hzero hkind
    have hkind' : c.kind = shape.core.kind := hsuits.kind_eq hchecked
    rw [← hkind'] at hkind ⊢
    -- The refusal is the last inquiry of its position, so what is asked there by the rules of a
    -- pointer counts as earlier.
    have hagenda := (i.terrain now).agenda_of_kind_ne place level hchecked hzero hkind false
    have hrefusal : (i.terrain now).root r.tag 0 r.fields =
        (before ++ ofRules place v .pointer c.headRules) ++
          .refusal place (.mismatch place.label c.kind v.bare.kind) :: after := by
      rw [← hroot, hagenda, ofMismatch]
      simp only [List.append_assoc, List.singleton_append]
    refine ⟨_, after, hrefusal, ?_⟩
    rw [violations_eq, transcript, hrefusal]
    exact Transcript.outcome_of_refusal _ after place _
  · intro declared tag fields hcore hbare
    obtain ⟨head, rfl⟩ := hsuits.exists_eq_record hchecked hcore
    refine ⟨head, before, after, rfl, ?_⟩
    rw [← (i.terrain now).agenda_record place level head hbare false, hroot]

end Inspector

/-- A record type that holds a person. -/
def RecordType.parcel : RecordType where
  tag := ⟨7, "Parcel"⟩
  fields := [.checked "sender" (.record ⟨8, "Person"⟩) "req"]

def RecordType.person : RecordType where
  tag := ⟨8, "Person"⟩
  fields := [.checked "name" .text "req"]

/-- A record type for what is no person. -/
def RecordType.robot : RecordType where
  tag := ⟨9, "Robot"⟩
  fields := [.checked "number" (.integer (.signed 64)) "min:1"]

/-- A parcel with any value for its sender. -/
def Record.parcel (sender : Value) : Record := ⟨RecordType.parcel.tag, [sender]⟩

/-- What is enrolled when these types are registered. -/
def parcelEnrolments : Enrolments :=
  ((Roster.empty.insert RecordType.parcel.tag ⟨.parcel, Inspector.lexicon {}, []⟩).insert
    RecordType.person.tag ⟨.person, Inspector.lexicon {}, []⟩).insert
      RecordType.robot.tag ⟨.robot, Inspector.lexicon {}, []⟩

namespace Inspector

/-- The inspector that they are registered with. -/
def ofParcels : Inspector :=
  (run {} ⟨0⟩ [.register .parcel, .register .person, .register .robot]).1

theorem built_ofParcels : Built ofParcels parcelEnrolments := by
  obtain ⟨i₁, h₁⟩ : ∃ i, register {} .parcel = .ok i := (isSome_toOption _).mp (by cbv)
  obtain ⟨-, -, hparcel⟩ := register_eq_ok_iff.mp h₁
  obtain ⟨i₂, h₂⟩ : ∃ i, i₁.register .person = .ok i := by
    rw [hparcel]
    exact (isSome_toOption _).mp (by cbv)
  obtain ⟨-, -, hperson⟩ := register_eq_ok_iff.mp h₂
  obtain ⟨i₃, h₃⟩ : ∃ i, i₂.register .robot = .ok i := by
    rw [hperson, hparcel]
    exact (isSome_toOption _).mp (by cbv)
  have hrun : ofParcels = i₃ := by
    simp only [ofParcels, run, step, attempt, h₁, h₂, h₃]
  subst hperson
  subst hparcel
  have hbuilt := Built.register .robot (.register .person (.register .parcel (.new {}) h₁) h₂) h₃
  rw [hrun]
  exact hbuilt

theorem meets_sender (sender : Value) :
    ofParcels.Meets parcelEnrolments ⟨0⟩ (.parcel sender) (.field .root "sender")
      (.record RecordType.person.tag) (.record { required := true }) 1 sender := by
  obtain ⟨b, hb⟩ : ∃ b, ofParcels.blueprints.find? RecordType.parcel.tag = some b := by
    rw [built_ofParcels.find?_blueprints]
    exact ⟨_, rfl⟩
  have hreach : ofParcels.Reaches ⟨0⟩ (.parcel sender)
      (.record b .root RecordType.parcel.tag 1 [sender]) := ⟨b, hb, by cbv, .refl⟩
  have he : parcelEnrolments.find? RecordType.parcel.tag = some ⟨.parcel, lexicon {}, []⟩ := rfl
  have hdecl : RecordType.parcel.fields[0]? =
      some (.checked "sender" (.record RecordType.person.tag) "req") := rfl
  have hrules : Constraint.ofText (lexicon {}) (.record RecordType.person.tag) "req" =
      .record { required := true } := by cbv
  rw [← hrules]
  exact .field hreach he hdecl rfl

/-- A text is refused where a person was declared. -/
theorem disagreements_refused_parcel :
    ofParcels.violations ⟨0⟩ (.parcel (.text "Ann")) =
        .error (.mismatch "sender" .record .text) ∧
      ∃ earlier later, (ofParcels.terrain ⟨0⟩).root RecordType.parcel.tag 0 [.text "Ann"] =
        earlier ++
          .refusal (.field .root "sender") (.mismatch "sender" .record .text) :: later := by
  have hviolations : ofParcels.violations ⟨0⟩ (.parcel (.text "Ann")) =
      .error (.mismatch "sender" .record .text) := by cbv
  obtain ⟨earlier, later, hroot, -⟩ :=
    (disagreements_refused built_ofParcels (meets_sender (.text "Ann")) rfl).1 rfl (by decide)
  exact ⟨hviolations, earlier, later, hroot⟩

/-- A robot passes where a person was declared. -/
theorem other_records_pass :
    ¬∀ (i : Inspector) (es : Enrolments) (now : Instant) (r : Record) (place : Place)
        (shape : Shape) (c : Constraint) (level : Nat) (v : Value),
      Built i es → i.Meets es now r place shape c level v → c.isUnchecked = false →
      v.bare.isZero = false →
      (v.bare.kind ≠ shape.core.kind ∨ ∃ declared tag fields,
        shape.core = .record declared ∧ v.bare = .record tag fields ∧ tag ≠ declared) →
      ∃ f, i.violations now r = .error f := by
  intro h
  have hpasses : ofParcels.violations ⟨0⟩
      (.parcel (.record RecordType.robot.tag [.integer 7])) = .ok ⟨[]⟩ := by cbv
  have hother : RecordType.robot.tag ≠ RecordType.person.tag := by decide
  obtain ⟨f, hf⟩ := h ofParcels parcelEnrolments ⟨0⟩ _ _ _ _ _ _ built_ofParcels
    (meets_sender (.record RecordType.robot.tag [.integer 7])) rfl rfl
    (.inr ⟨_, _, _, rfl, rfl, hother⟩)
  rw [hpasses] at hf
  cases hf

end Inspector

end RecordValidation
