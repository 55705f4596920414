import RecordValidation.Proofs.Influence

/-!
Blank records, in which nothing has been filled in: texts are empty, numbers are zero, times
are at the start of 1970, optionals are null and sequences are empty. All that a check can
find in such a record is what its annotations require, and it asks for nothing else. What
counts as not being there depends on the kind: the zero of a plain scalar does and a null
does, but an empty sequence or a blank record is there.
-/

namespace RecordValidation

open Annotation

/-- The tag of the record that a shape is. -/
def Shape.record? : Shape → Option TypeTag
  | .record tag => some tag
  | _ => none

/-- Whether a blank of a shape counts as absent: if it is a scalar, or optional and of a kind
that rules know. -/
def Shape.missable : Shape → Bool
  | .scalar _ => true
  | .optional inner => inner.core ≠ .inert
  | _ => false

/-- The blank data of a type. Records are blank if they are of an enrolled type and their
annotated fields are blank; there are no more than the given number of them within one
another. -/
inductive Enrolments.Blank (es : Enrolments) : Nat → FieldType → Datum → Prop
  | text (depth : Nat) : es.Blank depth .text (.text "")
  | integer (depth : Nat) (format : IntegerFormat) : es.Blank depth (.integer format) (.integer 0)
  | single (depth : Nat) (x : Float32) (h : (x.toFloat == 0.0) = true) :
      es.Blank depth (.float .single) (.single x)
  | double (depth : Nat) (x : Float) (h : (x == 0.0) = true) :
      es.Blank depth (.float .double) (.double x)
  | time (depth : Nat) : es.Blank depth .time (.time ⟨0⟩)
  | flag (depth : Nat) (b : Bool) : es.Blank depth .flag (.flag b)
  | option (depth : Nat) (inner : FieldType) : es.Blank depth (.option inner) .none
  | boxed {depth : Nat} {inner : FieldType} {d : Datum} (h : es.Blank depth inner d) :
      es.Blank depth (.boxed inner) (.boxed d)
  | sequence (depth : Nat) (element : FieldType) :
      es.Blank depth (.sequence element) (.sequence [])
  | record {depth : Nat} {tag : TypeTag} {e : Enrolment} {fields : List Datum}
      (he : es.find? tag = some e) (hlength : fields.length = e.type.fields.length)
      (h : ∀ (index : Nat) name type rules d,
        e.type.fields[index]? = some (.checked name type rules) → rules ≠ "" →
        fields[index]? = some d → es.Blank depth type d) :
      es.Blank (depth + 1) (.record tag) (.record tag fields)

/-- A field with an annotation, and the label that it has in a record. -/
structure AnnotatedField where
  label : String
  type : FieldType
  rules : String

/-- Whether a blank field is reported: the rules before the first dive require it, and its
blank counts as absent. -/
def AnnotatedField.missing (f : AnnotatedField) : Bool :=
  f.type.shape.missable && (splitDive (tokens f.rules)).1.any (·.is .required)

/-- The annotated fields that a declared field leads to: none if it is not checked, and else
itself and those of the record that it holds. -/
def FieldDecl.annotated (path : Option String)
    (within : String → TypeTag → List AnnotatedField) : FieldDecl → List AnnotatedField
  | .skipped _ => []
  | .checked name type rules =>
    if rules = "" then []
    else
      let label := Scope.fieldLabel path name
      ⟨label, type, rules⟩ :: type.shape.record?.toList.flatMap (within label)

/-- The annotated fields of a record and of the plain records in it, in the order in which
they are declared; the fields of a record come after the field that holds it. -/
def Enrolments.reached (es : Enrolments) : Nat → Option String → TypeTag → List AnnotatedField
  | 0, _, _ => []
  | depth + 1, path, tag =>
    (es.find? tag).toList.flatMap fun e =>
      e.type.fields.flatMap (FieldDecl.annotated path fun label => es.reached depth (some label))

/-- The record types that are reached through annotated fields which hold plain records. -/
inductive Enrolments.Holds (es : Enrolments) (tag : TypeTag) : TypeTag → Prop
  | refl : es.Holds tag tag
  | field {outer inner : TypeTag} {e : Enrolment} {name rules : String} {type : FieldType}
      (h : es.Holds tag outer) (he : es.find? outer = some e)
      (hdecl : .checked name type rules ∈ e.type.fields) (hrules : rules ≠ "")
      (hshape : type.shape = .record inner) : es.Holds tag inner

/-- Rules that have nothing to say against a blank that is there: the rules of a sequence ask
for no elements, and no custom rules are applied to whole sequences or records. -/
structure Shape.Quiet (lex : Lexicon) (shape : Shape) (head : List Token) : Prop where
  least : shape.kind = .sequence → ∀ t ∈ head, t.is .least = false
  custom : shape.kind = .sequence ∨ shape.kind = .record →
    ∀ t ∈ head, lex.rules.find? t.name = none

/-- A record type with such rules only. -/
structure Enrolment.Quiet (e : Enrolment) : Prop where
  recordRules : e.recordRules = []
  fields : ∀ {name type rules}, .checked name type rules ∈ e.type.fields →
    type.shape.Quiet e.lexicon (splitDive (tokens rules)).1

namespace AnnotatedField

/-- What is reported of blank fields. -/
def reports (fields : List AnnotatedField) : List Violation :=
  (fields.filter (·.missing)).map fun f => .required f.label

theorem reports_flatMap {α : Type} (l : List α) (f : α → List AnnotatedField) :
    reports (l.flatMap f) = l.flatMap fun a => reports (f a) := by
  rw [reports, List.filter_flatMap, List.map_flatMap]
  rfl

theorem reports_cons (f : AnnotatedField) (rest : List AnnotatedField) :
    reports (f :: rest) = (if f.missing then [.required f.label] else []) ++ reports rest := by
  unfold reports
  rw [List.filter_cons]
  split <;> rfl

end AnnotatedField

namespace Segment

variable {β α : Type} {d : Dialect β α} {lex : Lexicon} {ts : List Token}

theorem custom_ofTokens_eq_nil (h : ∀ t ∈ ts, lex.rules.find? t.name = none) :
    (ofTokens d lex ts).custom = [] := by
  apply List.filterMap_eq_nil_iff.mpr
  intro t ht
  rw [RuleBook.bind?, h t (List.mem_of_mem_filter ht)]
  rfl

theorem ruleArgument?_of_not_is {γ : Type} (read : String → Option γ) {b : Builtin}
    (h : ∀ t ∈ ts, t.is b = false) : ruleArgument? read b ts = none := by
  have hfind : ts.find? (·.is b) = none :=
    List.find?_eq_none.mpr fun t ht => by rw [h t ht]; nofun
  rw [ruleArgument?, hfind]
  rfl

/-- A sequence without elements fails no rule but one that asks for elements. -/
theorem failures_empty_sequence (h : ∀ t ∈ ts, t.is .least = false) (label : String) :
    (ofTokens .sequence lex ts).failures (.sequence 0) label = [] := by
  have habove : ∀ greatest : Option Nat, greatest.filter (Gauge.sequence 0).above = none := by
    intro greatest
    cases greatest <;> rfl
  have hmembers : ∀ arg, Dialect.sequence.members? arg = none := fun _ => rfl
  have hpattern : ∀ arg, Dialect.sequence.pattern? arg = none := fun _ => rfl
  simp only [failures, ofTokens, habove, ruleArgument?_of_not_is _ h,
    ruleArgument?_of_unread hmembers, ruleArgument?_of_unread hpattern]
  rfl

end Segment

namespace Terrain

variable {t : Terrain} {r : Interpreter} {lex : Lexicon} {ts : List Token} {place : Place}
  {label : String}

/-- The zero of a scalar is all that is looked at: it is absent. -/
theorem ofInquiries_zero (hplace : place.path? = some label) {s : Scalar}
    (hform : WellFormed lex (.scalar s) ts) {value : Value} (hkind : value.kind = s.kind)
    (hzero : value.isZero = true) (level : Nat) :
    Transcript.ofInquiries
        (t.agenda (.ofTokens lex (.scalar s) ts) false place level value) =
      Interpreter.absent label (splitDive ts).1 := by
  have hagenda : t.agenda (.ofTokens lex (.scalar s) ts) false place level value =
      t.ifPresent place (.ofTokens lex ts s) false value := by
    cases value with
    | just inner => cases s <;> cases hkind
    | _ => simp only [Constraint.ofTokens, agenda, plain]
  rw [hagenda, ifPresent, Value.present?_of_kind hkind, hzero,
    splitDive_of_flat (WellFormed.scalar_iff.mp hform).flat]
  simp only [Bool.not_false, Bool.and_self, if_true, required_ofTokens]
  exact ofAbsence_eq hplace value

/-- An empty sequence is there, and has nothing in it to look at. -/
theorem agenda_empty_sequence {element : Shape}
    (hleast : ∀ t ∈ (splitDive ts).1, t.is .least = false)
    (hcustom : ∀ t ∈ (splitDive ts).1, lex.rules.find? t.name = none) (nullable : Bool)
    (level : Nat) :
    t.agenda (.ofTokens lex (.sequence element) ts) nullable place level (.sequence []) = [] := by
  have hsegment : Inquiry.ofSegment .sequence (Segment.ofTokens .sequence lex (splitDive ts).1)
      (.sequence 0) place (.sequence []) = [] := by
    rw [Inquiry.ofSegment, Segment.failures_empty_sequence hleast,
      Segment.custom_ofTokens_eq_nil hcustom]
    rfl
  rw [Constraint.ofTokens]
  split <;>
  · next hsplit =>
    rw [hsplit] at hsegment
    simp only [agenda, elements, List.length_nil, List.append_nil, hsegment]

/-- The fields of a record are asked for one after another, by what is declared for each. -/
theorem ofInquiries_fields {tag : TypeTag} {level : Nat} (b : Blueprint) {values : List Value}
    {decls : List FieldDecl} (hlength : values.length = decls.length)
    {found : FieldDecl → List Violation}
    (h : ∀ (index : Nat) decl v, decls[index]? = some decl → values[index]? = some v →
      Transcript.ofInquiries (t.agenda (FieldPlan.ofDecl lex tag decl).constraint false
        (place.field decl.name) level v) = ⟨found decl, none⟩) :
    Transcript.ofInquiries
        (t.fields b place tag level values (decls.map (.ofDecl lex tag))) =
      ⟨decls.flatMap found, none⟩ := by
  induction values generalizing decls with
  | nil =>
    cases decls with
    | nil =>
      simp only [fields]
      rfl
    | cons decl decls => cases hlength
  | cons v values ih =>
    cases decls with
    | nil => cases hlength
    | cons decl decls =>
      have hfirst := h 0 decl v rfl rfl
      have hrest := ih (Nat.succ.inj hlength) fun index => h (index + 1)
      have howner : (FieldPlan.ofDecl lex tag decl).owner = tag := by cases decl <;> rfl
      have hname : (FieldPlan.ofDecl lex tag decl).name = decl.name := by cases decl <;> rfl
      rw [List.map_cons, fields, howner, hname, if_neg (not_not_intro rfl), ite_isUnchecked,
        Transcript.ofInquiries_append, hfirst, hrest, Transcript.andThen_of_no_fault rfl,
        List.flatMap_cons]

end Terrain

namespace Terrain

open AnnotatedField

variable {t : Terrain} {r : Interpreter}

/-- What is reported of a field that may be missing and holds no record. -/
theorem absent_eq_reports {f : AnnotatedField} (hmissable : f.type.shape.missable = true)
    (hrecord : f.type.shape.record? = none) (within : TypeTag → List AnnotatedField) :
    Interpreter.absent f.label (splitDive (tokens f.rules)).1 =
      ⟨reports (f :: f.type.shape.record?.toList.flatMap within), none⟩ := by
  rw [hrecord, reports_cons, AnnotatedField.missing, hmissable, Bool.true_and,
    Interpreter.absent]
  split <;> rfl

theorem reports_of_not_missable {f : AnnotatedField} (h : f.type.shape.missable = false)
    (rest : List AnnotatedField) : reports (f :: rest) = reports rest := by
  rw [reports_cons, AnnotatedField.missing, h]
  rfl

/-- What is reported of a record, if it is known what is reported of its annotated fields. -/
theorem ofInquiries_blank_entry (hr : r.Covers t) {place : Place} {path : Option String}
    {tag : TypeTag} {e : Enrolment} (he : r.enrolments.find? tag = some e) (hquiet : e.Quiet)
    {level depth : Nat} (hlevel : level < t.limit) {fields : List Datum}
    (hlength : fields.length = e.type.fields.length)
    (h : ∀ (index : Nat) name type rules d,
      e.type.fields[index]? = some (.checked name type rules) → rules ≠ "" →
      fields[index]? = some d →
      Transcript.ofInquiries (t.agenda (.ofTokens e.lexicon type.shape (tokens rules)) false
          (place.field name) (level + 1) d.view) =
        ⟨reports (⟨Scope.fieldLabel path name, type, rules⟩ :: type.shape.record?.toList.flatMap
          (r.enrolments.reached depth (some (Scope.fieldLabel path name)))), none⟩) :
    Transcript.ofInquiries (t.entry place tag level fun b =>
        t.fields b place tag (level + 1) (fields.map Datum.view) b.fields ++
          Inquiry.ofRecordRules b place tag (fields.map Datum.view)) =
      ⟨reports (r.enrolments.reached (depth + 1) path tag), none⟩ := by
  have hblueprint : t.blueprints.find? tag = some e.blueprint := by
    rw [hr.find?_blueprints, he, Option.map_some]
  have htag := hr.valid.tag_eq he
  have hrules : Inquiry.ofRecordRules e.blueprint place tag (fields.map Datum.view) = [] := by
    rw [Inquiry.ofRecordRules, Enrolment.blueprint, hquiet.recordRules]
    rfl
  have hreached : reports (r.enrolments.reached (depth + 1) path tag) =
      e.type.fields.flatMap fun decl => reports
        (decl.annotated path fun label => r.enrolments.reached depth (some label)) := by
    rw [Enrolments.reached, he, Option.toList_some, List.flatMap_cons, List.flatMap_nil,
      List.append_nil, reports_flatMap]
  have hplans : e.blueprint.fields = e.type.fields.map (.ofDecl e.lexicon tag) := by
    rw [Enrolment.blueprint, htag]
  simp only [entry, hblueprint, if_neg (Nat.not_le.mpr hlevel), hrules, List.append_nil, hplans]
  rw [hreached]
  refine ofInquiries_fields e.blueprint (by rw [List.length_map, hlength]) ?_
  intro index decl v hdecl hv
  rw [List.getElem?_map] at hv
  obtain ⟨d, hd, rfl⟩ := Option.map_eq_some_iff.mp hv
  cases decl with
  | skipped name =>
    rw [FieldPlan.ofDecl, agenda_unchecked]
    rfl
  | checked name type rules =>
    by_cases hne : rules = ""
    · rw [FieldPlan.ofDecl, Constraint.ofText, if_pos hne, agenda_unchecked,
        FieldDecl.annotated, if_pos hne]
      rfl
    · rw [FieldPlan.ofDecl, Constraint.ofText, if_neg hne, FieldDecl.annotated, if_neg hne]
      exact h index name type rules d hdecl hne hd

/-- What is reported of blank data: that they are missing, or what is missing in them. -/
theorem ofInquiries_blank (hr : r.Covers t) {root : TypeTag}
    (hquiet : ∀ tag e, r.enrolments.Holds root tag → r.enrolments.find? tag = some e → e.Quiet)
    {depth : Nat} {type : FieldType} {d : Datum} (h : r.enrolments.Blank depth type d)
    (hholds : ∀ tag, type.shape = .record tag → r.enrolments.Holds root tag)
    {lex : Lexicon} {rules : String} (hform : WellFormed lex type.shape (tokens rules))
    (hrules : type.shape.Quiet lex (splitDive (tokens rules)).1) {place : Place} {label : String}
    (hplace : place.path? = some label) {level : Nat} (hlevel : level + depth ≤ t.limit) :
    Transcript.ofInquiries
        (t.agenda (.ofTokens lex type.shape (tokens rules)) false place level d.view) =
      ⟨reports (⟨label, type, rules⟩ :: type.shape.record?.toList.flatMap
        (r.enrolments.reached depth (some label))), none⟩ := by
  induction h generalizing lex rules place label level with
  | text | integer | time =>
    rw [← absent_eq_reports rfl rfl]
    exact ofInquiries_zero hplace hform rfl rfl level
  | single depth x hx =>
    have hzero : (Value.float x.toFloat).isZero = true := hx
    rw [← absent_eq_reports rfl rfl]
    exact ofInquiries_zero hplace hform rfl hzero level
  | double depth x hx =>
    have hzero : (Value.float x).isZero = true := hx
    rw [← absent_eq_reports rfl rfl]
    exact ofInquiries_zero hplace hform rfl hzero level
  | flag depth b =>
    rw [reports_of_not_missable rfl]
    simp only [FieldType.shape, Constraint.ofTokens, agenda_unchecked]
    rfl
  | option depth inner =>
    have hmissable : (FieldType.option inner).shape.missable =
        decide (inner.shape.core ≠ .inert) := rfl
    simp only [Datum.view, agenda]
    rw [plain_null hplace hform, FieldType.shape, Shape.core_optional]
    by_cases hinert : inner.shape.core = .inert
    · have hnot : (FieldType.option inner).shape.missable = false := by
        rw [hmissable, hinert]
        rfl
      rw [if_pos hinert, reports_of_not_missable hnot]
      rfl
    · rw [if_neg hinert]
      exact absent_eq_reports (f := ⟨label, .option inner, rules⟩)
        (hmissable.trans (decide_eq_true hinert)) rfl _
  | boxed h ih =>
    rw [reports_cons]
    refine (ih hholds hform hrules hplace hlevel).trans ?_
    rw [reports_cons]
    rfl
  | sequence depth element =>
    rw [reports_of_not_missable rfl]
    have hagenda : t.agenda (.ofTokens lex (.sequence element.shape) (tokens rules)) false place
        level (.sequence []) = [] :=
      agenda_empty_sequence (hrules.least rfl) (hrules.custom (.inl rfl)) false level
    exact congrArg Transcript.ofInquiries hagenda
  | @record depth tag e fields he hlength h ih =>
    have hholds' := hholds tag rfl
    have hquiet' := hquiet tag e hholds' he
    rw [reports_of_not_missable rfl]
    simp only [FieldType.shape, Constraint.ofTokens, Datum.view, Datum.views_eq, agenda,
      Segment.custom_ofTokens_eq_nil (hrules.custom (.inr rfl)), Inquiry.ofRules, List.map_nil,
      List.nil_append, Shape.record?, Option.toList_some, List.flatMap_cons, List.flatMap_nil,
      List.append_nil]
    refine ofInquiries_blank_entry hr he hquiet' (by omega) hlength ?_
    intro index name type rules d hdecl hne hd
    have hmem := List.mem_of_getElem? hdecl
    have hform' := (hr.valid.accepted he _ hmem).resolve_left hne
    have hplace' : (place.field name).path? = some (Scope.fieldLabel (some label) name) := by
      rw [Place.path?_field, hplace]
    exact ih index name type rules d hdecl hne hd
      (fun inner hshape => .field hholds' he hmem hne hshape) hform' (hquiet'.fields hmem)
      hplace' (by omega)

end Terrain

namespace Inspector

open AnnotatedField

variable {i : Inspector} {es : Enrolments}

/-- A blank record is found to lack exactly what it requires. Its check comes to an end, and
reports one violation for each annotated field, of the record itself or of a plain record
that it holds, whose rules before the first dive require a value and whose blank is absent,
in the order of their declarations. Other rules have nothing to say. -/
theorem blank_record_lacks_required (h : Built i es) {tag : TypeTag} {fields : List Datum}
    (hblank : es.Blank i.settings.maxDepth (.record tag) (.record tag fields))
    (hquiet : ∀ inner e, es.Holds tag inner → es.find? inner = some e → e.Quiet)
    (now : Instant) :
    i.violations now ⟨tag, fields.map Datum.view⟩ =
      .ok ⟨((es.reached i.settings.maxDepth none tag).filter (·.missing)).map
        fun f => .required f.label⟩ := by
  have hr := h.covers now
  rw [violations_eq]
  generalize hdepth : i.settings.maxDepth = depth at hblank
  cases hblank with
  | @record depth _ e _ he hlength hfields =>
    have hlimit : (i.terrain now).limit = depth + 1 := hdepth
    have hroot : Transcript.ofInquiries ((i.terrain now).root tag 0 (fields.map Datum.view)) =
        ⟨reports (es.reached (depth + 1) none tag), none⟩ := by
      refine Terrain.ofInquiries_blank_entry hr he (hquiet tag e .refl he) (by omega) hlength ?_
      intro index name type rules d hdecl hne hd
      have hmem := List.mem_of_getElem? hdecl
      have hform := (h.valid.accepted he _ hmem).resolve_left hne
      exact Terrain.ofInquiries_blank hr hquiet (hfields index name type rules d hdecl hne hd)
        (fun inner hshape => .field .refl he hmem hne hshape) hform
        ((hquiet tag e .refl he).fields hmem) rfl (by omega)
    rw [transcript, hroot]
    rfl

end Inspector

/-- A record type that holds a record of another one. -/
def RecordType.customer : RecordType where
  tag := ⟨5, "Customer"⟩
  fields := [
    .checked "name" .text "max:9|req",
    .checked "nick" (.option .text) "req|dive|min:2",
    .checked "tags" (.sequence .text) "req|max:3",
    .checked "home" (.boxed (.record ⟨6, "Address"⟩)) "req",
    .checked "age" (.integer (.signed 32)) "min:18"]

def RecordType.address : RecordType where
  tag := ⟨6, "Address"⟩
  fields := [.skipped "note", .checked "street" .text "req|min:3"]

/-- What is enrolled when these two types are registered. -/
def customerEnrolments : Enrolments :=
  (Roster.empty.insert RecordType.customer.tag ⟨.customer, Inspector.lexicon {}, []⟩).insert
    RecordType.address.tag ⟨.address, Inspector.lexicon {}, []⟩

theorem find?_customerEnrolments {tag : TypeTag} {e : Enrolment}
    (he : customerEnrolments.find? tag = some e) :
    e = ⟨.customer, Inspector.lexicon {}, []⟩ ∨ e = ⟨.address, Inspector.lexicon {}, []⟩ := by
  rw [customerEnrolments, Roster.find?_insert, Roster.find?_insert] at he
  split at he
  · exact .inr (Option.some.inj he).symm
  · split at he
    · exact .inl (Option.some.inj he).symm
    · cases he

theorem quiet_customer : Enrolment.Quiet ⟨.customer, Inspector.lexicon {}, []⟩ where
  recordRules := rfl
  fields {name type rules} hmem := by
    refine ⟨fun hkind => ?_, fun _ _ _ => rfl⟩
    simp only [RecordType.customer, List.mem_cons, List.not_mem_nil, or_false] at hmem
    rcases hmem with h | h | h | h | h <;> cases h
    case inr.inr.inl => decide +kernel
    all_goals exact absurd hkind (by decide)

theorem quiet_address : Enrolment.Quiet ⟨.address, Inspector.lexicon {}, []⟩ where
  recordRules := rfl
  fields {name type rules} hmem := by
    refine ⟨fun hkind => ?_, fun _ _ _ => rfl⟩
    simp only [RecordType.address, List.mem_cons, List.not_mem_nil, or_false] at hmem
    rcases hmem with h | h <;> cases h
    exact absurd hkind (by decide)

theorem blank_customer (depth : Nat) (note : Datum) :
    customerEnrolments.Blank (depth + 2) (.record RecordType.customer.tag)
      (.record RecordType.customer.tag [.text "", .none, .sequence [],
        .boxed (.record RecordType.address.tag [note, .text ""]), .integer 0]) := by
  have haddress : customerEnrolments.Blank (depth + 1) (.record RecordType.address.tag)
      (.record RecordType.address.tag [note, .text ""]) := by
    refine .record (e := ⟨.address, Inspector.lexicon {}, []⟩) rfl rfl ?_
    intro index name type rules d hdecl _ hd
    rcases index with _ | _ | index <;> cases hdecl
    cases hd
    exact .text _
  refine .record (e := ⟨.customer, Inspector.lexicon {}, []⟩) rfl rfl ?_
  intro index name type rules d hdecl _ hd
  rcases index with _ | _ | _ | _ | _ | index <;> cases hdecl <;> cases hd
  · exact .text _
  · exact .option _ _
  · exact .sequence _ _
  · exact .boxed haddress
  · exact .integer _ _

namespace Inspector

/-- A blank customer lacks a name, a nickname and a street. Nothing is said against its age,
its tags and its home, nor about rules that texts of no characters would break. -/
theorem blank_record_lacks_required_customer :
    let fields : List Datum := [.text "", .none, .sequence [],
      .boxed (.record RecordType.address.tag [.flag true, .text ""]), .integer 0]
    ∃ i i', register {} .customer = .ok i ∧ i.register .address = .ok i' ∧
      i'.violations ⟨0⟩ ⟨RecordType.customer.tag, fields.map Datum.view⟩ =
        .ok ⟨[.required "name", .required "nick", .required "home.street"]⟩ := by
  intro fields
  obtain ⟨i, hi⟩ : ∃ i, register {} .customer = .ok i := (isSome_toOption _).mp (by cbv)
  obtain ⟨-, -, hcustomer⟩ := register_eq_ok_iff.mp hi
  obtain ⟨i', hi'⟩ : ∃ i', i.register .address = .ok i' := by
    rw [hcustomer]
    exact (isSome_toOption _).mp (by cbv)
  subst hcustomer
  have hbuilt := Built.register .address (.register .customer (.new {}) hi) hi'
  change Built i' customerEnrolments at hbuilt
  refine ⟨_, i', hi, hi', ?_⟩
  obtain ⟨-, -, rfl⟩ := register_eq_ok_iff.mp hi'
  rw [blank_record_lacks_required hbuilt (blank_customer 62 (.flag true)) ?_ ⟨0⟩]
  · cbv
  · intro inner e _ he
    rcases find?_customerEnrolments he with rfl | rfl
    · exact quiet_customer
    · exact quiet_address

end Inspector

end RecordValidation
