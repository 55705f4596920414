import RecordValidation.Proofs.Extents
import RecordValidation.Proofs.Measurement

/-!
Compiled annotations say what the interpreter reads. What is shown of the rules of one
level is shown along a value of all constraints that go with it, and then of whole
records, for every inspector that can be built.
-/

namespace RecordValidation

theorem Value.present?_of_kind {s : Scalar} {value : Value} (hkind : value.kind = s.kind)
    (nullable : Bool) :
    value.present? nullable = if !nullable && value.isZero then none else some value := by
  cases value with
  | null => cases s <;> cases hkind
  | just inner => cases s <;> cases hkind
  | _ => rfl

theorem Enrolments.kind_of_fits {es : Enrolments} {s : Scalar} {value : Value}
    (hfits : es.fits (.scalar s) value = true) : value.kind = s.kind := by
  cases value <;> simp only [fits, beq_iff_eq, Bool.false_eq_true] at hfits
  all_goals exact hfits

/-- An interpreter and a terrain with the blueprints of what the interpreter has
enrolled. -/
structure Interpreter.Covers (r : Interpreter) (t : Terrain) : Prop where
  limit : t.limit = r.limit
  now : t.now = r.now
  valid : r.enrolments.Valid
  find?_blueprints : ∀ tag,
    t.blueprints.find? tag = (r.enrolments.find? tag).map Enrolment.blueprint

namespace Constraint

open Annotation

variable {lex : Lexicon} {tokens head tail : List Token}

theorem ofTokens_ne_pointer {shape : Shape} (hplain : Flat tokens ∨ ∀ s, shape.core ≠ .scalar s)
    (head : Segment Empty Empty) (target : ScalarConstraint) :
    ofTokens lex shape tokens ≠ .pointer head target := by
  induction shape with
  | optional inner ih =>
    rw [Shape.core_optional] at hplain
    rw [ofTokens_optional_of_plain hplain]
    exact ih hplain
  | sequence element ih =>
    rw [ofTokens]
    intro h
    split at h <;> cases h
  | scalar s | record tag | inert =>
    intro h
    cases h

theorem ofTokens_pointer {inner : Shape} {s : Scalar} (hcore : inner.core = .scalar s)
    (hflat : Flat head) :
    ofTokens lex (.optional inner) (head ++ Token.dive :: tail) =
      .pointer (.ofTokens .pointer lex head) (.ofTokens lex tail s) := by
  rw [ofTokens, hcore, splitDive_append hflat]

end Constraint

namespace Terrain

variable (t : Terrain) (nullable : Bool) (place : Place) (depth : Nat)

theorem agenda_unchecked (value : Value) :
    t.agenda .unchecked nullable place depth value = [] := by
  cases value <;> simp only [agenda, plain]

theorem elements_unchecked (index : Nat) (items : List Value) :
    t.elements .unchecked place index depth items = [] := by
  induction items generalizing index with
  | nil => simp only [elements]
  | cons item rest ih => simp only [elements, agenda_unchecked, ih, List.append_nil]

/-- Fields with nothing to check are left out, but there would be nothing to ask. -/
theorem ite_isUnchecked (c : Constraint) (value : Value) :
    (if c.isUnchecked then [] else t.agenda c nullable place depth value) =
      t.agenda c nullable place depth value := by
  cases c with
  | unchecked => exact (t.agenda_unchecked nullable place depth value).symm
  | _ => rfl

/-- An optional layer makes the place nullable, but for pointers. -/
theorem agenda_just {c : Constraint} (hne : ∀ head target, c ≠ .pointer head target)
    (inner : Value) :
    t.agenda c nullable place depth (.just inner) = t.agenda c true place depth inner := by
  cases c with
  | pointer head target => exact absurd rfl (hne head target)
  | unchecked => rw [agenda_unchecked, agenda_unchecked]
  | scalar target => simp only [agenda]
  | sequence head element => simp only [agenda]
  | record head => simp only [agenda]

end Terrain

namespace Interpreter

open Annotation

variable {r : Interpreter} {lex : Lexicon} {tokens head tail : List Token} {inner : Shape}
  {nullable : Bool} {label : String} {depth : Nat}

theorem read_just_of_plain (hplain : Flat tokens ∨ ∀ s, inner.core ≠ .scalar s)
    (value : Value) :
    r.read lex (.optional inner) tokens nullable label depth (.just value) =
      r.read lex inner tokens true label depth value := by
  simp only [read]
  split
  · next s head tail hcore hsplit =>
    rcases hplain with hflat | hne
    · rw [splitDive_of_flat hflat] at hsplit
      cases hsplit
    · exact absurd hcore (hne s)
  · rfl

theorem read_just_pointer {s : Scalar} (hcore : inner.core = .scalar s) (hflat : Flat head)
    (value : Value) :
    r.read lex (.optional inner) (head ++ Token.dive :: tail) nullable label depth
        (.just value) =
      (custom lex label (.just value) head).andThen
        (r.read lex inner tail false label depth value) := by
  simp only [read, hcore, splitDive_append hflat]

end Interpreter

namespace Terrain

open Annotation Inquiry

variable {t : Terrain} {r : Interpreter} {lex : Lexicon} {tokens head tail : List Token}
  {place : Place} {label : String}

theorem ofAbsence_eq (hplace : place.path? = some label) (value : Value) :
    Transcript.ofInquiries (ofAbsence (tokens.any (·.is .required)) place value) =
      Interpreter.absent label tokens := by
  unfold ofAbsence Interpreter.absent
  rw [← Place.label_of_path? hplace]
  split <;> rfl

theorem required_ofTokens (s : Scalar) :
    (ScalarConstraint.ofTokens lex tokens s).required = tokens.any (·.is .required) := by
  cases s <;> rfl

/-- The rules of a scalar at a value of its kind. -/
theorem scalar_ofTokens (hr : r.Covers t) (hplace : place.path? = some label) {s : Scalar}
    {value : Value} (hkind : value.kind = s.kind) :
    Transcript.ofInquiries (t.scalar place (.ofTokens lex tokens s) value) =
      r.level lex label value tokens := by
  cases s with
  | text =>
    cases value with
    | text x => exact ofSegment_ofTokens hplace (Gauge.text_measures r.now x) _ tokens
    | _ => cases hkind
  | integer =>
    cases value with
    | integer n => exact ofSegment_ofTokens hplace (Gauge.whole_measures r.now n) _ tokens
    | _ => cases hkind
  | float =>
    cases value with
    | float x => exact ofSegment_ofTokens hplace (Gauge.float_measures r.now x) _ tokens
    | _ => cases hkind
  | time =>
    cases value with
    | time i =>
      simp only [ScalarConstraint.ofTokens, scalar, hr.now]
      exact ofSegment_ofTokens hplace (Gauge.time_measures r.now i) _ tokens
    | _ => cases hkind

theorem read_scalar {s : Scalar} {value : Value} (hkind : value.kind = s.kind)
    (nullable : Bool) (depth : Nat) :
    r.read lex (.scalar s) tokens nullable label depth value =
      if value.isZero && !nullable then Interpreter.absent label tokens
      else r.level lex label value tokens := by
  cases value with
  | null => cases s <;> cases hkind
  | just inner => cases s <;> cases hkind
  | sequence items => cases s <;> cases hkind
  | record tag fields => cases s <;> cases hkind
  | _ => simp only [Interpreter.read]

/-- Through any number of optional layers, the rules of a scalar are read as they
are compiled. -/
theorem ifPresent_ofTokens (hr : r.Covers t) (hplace : place.path? = some label)
    (hflat : Flat tokens) {s : Scalar} {shape : Shape} (hcore : shape.core = .scalar s)
    {value : Value} (hfits : r.enrolments.fits shape value = true) (nullable : Bool)
    (depth : Nat) :
    Transcript.ofInquiries (t.ifPresent place (.ofTokens lex tokens s) nullable value) =
      r.read lex shape tokens nullable label depth value := by
  induction shape generalizing value nullable with
  | scalar s' =>
    cases hcore
    have hkind := Enrolments.kind_of_fits hfits
    rw [read_scalar hkind, ifPresent, Value.present?_of_kind hkind, Bool.and_comm]
    cases value.isZero && !nullable with
    | true =>
      simp only [if_true, required_ofTokens]
      exact ofAbsence_eq hplace value
    | false => exact scalar_ofTokens hr hplace hkind
  | optional inner ih =>
    rw [Shape.core_optional] at hcore
    cases value with
    | null =>
      have hne : inner.optional.core ≠ .inert := by
        rw [Shape.core_optional, hcore]
        nofun
      simp only [ifPresent, Value.present?, Interpreter.read, if_neg hne, splitDive_of_flat hflat,
        required_ofTokens]
      exact ofAbsence_eq hplace .null
    | just pointee =>
      simp only [Enrolments.fits] at hfits
      rw [Interpreter.read_just_of_plain (.inl hflat), ← ih hcore hfits true]
      simp only [ifPresent, Value.present?]
      cases pointee.present? true with
      | none =>
        dsimp only
        rw [required_ofTokens, ofAbsence_eq hplace, ofAbsence_eq hplace]
      | some present => rfl
    | _ => simp only [Enrolments.fits, Bool.false_eq_true] at hfits
  | sequence element ih => cases hcore
  | record tag => cases hcore
  | inert => cases hcore

/-- What is absent is reported by the rules before the first dive. -/
theorem plain_null (hplace : place.path? = some label) {shape : Shape}
    (hform : WellFormed lex shape tokens) (nullable : Bool) :
    Transcript.ofInquiries (t.plain nullable place .null (.ofTokens lex shape tokens)) =
      if shape.core = .inert then {} else Interpreter.absent label (splitDive tokens).1 := by
  induction shape with
  | scalar s =>
    have hflat := (WellFormed.scalar_iff.mp hform).flat
    simp only [Constraint.ofTokens, plain, ifPresent, Value.present?, required_ofTokens,
      splitDive_of_flat hflat]
    exact ofAbsence_eq hplace .null
  | optional inner ih =>
    rw [Shape.core_optional]
    rcases Constraint.plain_or_pointer inner tokens with hplain | ⟨s, head, tail, hcore, hflat, rfl⟩
    · rw [Constraint.ofTokens_optional_of_plain hplain]
      exact ih ((WellFormed.optional_iff_of_plain hplain).mp hform)
    · rw [Constraint.ofTokens_pointer hcore hflat, hcore, splitDive_append hflat]
      exact ofAbsence_eq hplace .null
  | sequence element ih =>
    rw [Constraint.ofTokens]
    split
    · next head tail hsplit =>
      rw [hsplit]
      exact ofAbsence_eq hplace .null
    · next head hsplit =>
      rw [hsplit]
      exact ofAbsence_eq hplace .null
  | record tag => exact ofAbsence_eq hplace .null
  | inert => rfl

theorem entry_eq (hr : r.Covers t) {path : Option String} (hpath : place.path? = path)
    (tag : TypeTag) (depth : Nat) {body : Blueprint → List Inquiry}
    {body' : Enrolment → Transcript}
    (hbody : ∀ e, r.enrolments.find? tag = some e →
      Transcript.ofInquiries (body e.blueprint) = body' e) :
    Transcript.ofInquiries (t.entry place tag depth body) = r.enter path tag depth body' := by
  unfold entry Interpreter.enter
  rw [hr.find?_blueprints, hr.limit, hpath]
  cases he : r.enrolments.find? tag with
  | none => rfl
  | some e =>
    dsimp only [Option.map_some]
    split
    · rfl
    · exact hbody e he

theorem ofAnswer_record {path : Option String} (hpath : place.path? = path) (tag : TypeTag)
    (fields : List Value) (rule : RecordRule) :
    Transcript.ofAnswer (Inquiry.answer (.record place tag fields tag.name ⟨tag, rule⟩)) =
      .ofFinding (⟨path.getD tag.name, ·, Violation.recordCode⟩) (.recordRule tag.name)
        (rule fields) := by
  simp only [answer, OwnedRule.apply, if_true, hpath]
  cases rule fields with
  | error source => rfl
  | ok found => cases found <;> rfl

theorem ofRecordRules_eq {path : Option String} (hpath : place.path? = path) {tag : TypeTag}
    (fields : List Value) {e : Enrolment} (htag : e.type.tag = tag) :
    Transcript.ofInquiries (ofRecordRules e.blueprint place tag fields) =
      Interpreter.recordRules path tag fields e.recordRules := by
  unfold ofRecordRules Enrolment.blueprint
  rw [htag]
  dsimp only
  induction e.recordRules with
  | nil => rfl
  | cons rule rest ih =>
    rw [List.map_cons, List.map_cons, Transcript.ofInquiries, ih, ofAnswer_record hpath]
    rfl

/-- What is asked of a record once it was entered, if its fields are read as they are
asked for. -/
theorem body_eq (hr : r.Covers t) {path : Option String} (hpath : place.path? = path)
    {tag : TypeTag} {e : Enrolment} (he : r.enrolments.find? tag = some e) (values : List Value)
    {depth : Nat} {read : Transcript}
    (hread : Transcript.ofInquiries (t.fields e.blueprint place tag depth values
      (e.type.fields.map (.ofDecl e.lexicon tag))) = read) :
    Transcript.ofInquiries
        (t.fields e.blueprint place tag depth values e.blueprint.fields ++
          ofRecordRules e.blueprint place tag values) =
      read.andThen (Interpreter.recordRules path tag values e.recordRules) := by
  obtain rfl := hr.valid.tag_eq he
  rw [Transcript.ofInquiries_append, ofRecordRules_eq hpath values rfl, ← hread]
  rfl

end Terrain

namespace Terrain

open Annotation

variable {t : Terrain} {r : Interpreter}

mutual

/-- The agenda of a compiled annotation has the transcript that the interpreter
gets from its tokens. -/
theorem agenda_eq_read (hr : r.Covers t) {lex : Lexicon} {tokens : List Token} {place : Place}
    {label : String} (hplace : place.path? = some label) {shape : Shape}
    (hform : WellFormed lex shape tokens) (nullable : Bool) (depth : Nat) :
    (value : Value) → r.enrolments.fits shape value = true →
      Transcript.ofInquiries
          (t.agenda (.ofTokens lex shape tokens) nullable place depth value) =
        r.read lex shape tokens nullable label depth value
  | .just inner, hfits => by
    cases shape with
    | optional shape =>
      simp only [Enrolments.fits] at hfits
      rcases Constraint.plain_or_pointer shape tokens with
        hplain | ⟨s, head, tail, hcore, hflat, rfl⟩
      · -- The layer is only taken off, and the same tokens go with what is in it.
        have hinner := (WellFormed.optional_iff_of_plain hplain).mp hform
        rw [Constraint.ofTokens_optional_of_plain hplain,
          agenda_just _ _ _ _ (Constraint.ofTokens_ne_pointer hplain),
          Interpreter.read_just_of_plain hplain]
        exact agenda_eq_read hr hplace hinner true depth inner hfits
      · -- The tokens before the dive go with the layer, those after it with the scalar.
        obtain ⟨-, htail⟩ := (WellFormed.pointer_append_iff hcore hflat).mp hform
        rw [Constraint.ofTokens_pointer hcore hflat, Interpreter.read_just_pointer hcore hflat]
        simp only [agenda, pointer, Transcript.ofInquiries_append]
        rw [ofRules_ofTokens hplace, ifPresent_ofTokens hr hplace htail.flat hcore hfits]
    | _ => simp only [Enrolments.fits, Bool.false_eq_true] at hfits
  | .null, hfits => by
    simp only [agenda, Interpreter.read]
    exact plain_null hplace hform nullable
  | .sequence items, hfits => by
    cases shape with
    | sequence element =>
      simp only [Enrolments.fits] at hfits
      have hg := Gauge.sequence_measures r.now items
      rcases flat_or_eq_append tokens with hflat | ⟨head, tail, hflat, rfl⟩
      · simp only [Constraint.ofTokens, splitDive_of_flat hflat, agenda, Interpreter.read,
          elements_unchecked, List.append_nil]
        exact ofSegment_ofTokens hplace hg _ tokens
      · obtain ⟨-, htail⟩ := (WellFormed.sequence_append_iff hflat).mp hform
        simp only [Constraint.ofTokens, splitDive_append hflat, agenda, Interpreter.read,
          Transcript.ofInquiries_append]
        rw [ofSegment_ofTokens hplace hg, elements_eq_read hr hplace htail 0 depth items hfits]
    | _ => simp only [Enrolments.fits, Bool.false_eq_true] at hfits
  | .record tag fields, hfits => by
    cases shape with
    | record tag' =>
      simp only [Enrolments.fits, Bool.and_eq_true, beq_iff_eq] at hfits
      obtain ⟨rfl, hfields⟩ := hfits
      simp only [Constraint.ofTokens, agenda, Interpreter.read, Transcript.ofInquiries_append]
      rw [ofRules_ofTokens hplace]
      refine congrArg (Transcript.andThen _) (entry_eq hr hplace tag depth fun e he => ?_)
      rw [he] at hfields
      have hread := fields_eq_read hr hplace e.blueprint tag (depth + 1) fields e.type.fields
        (hr.valid.accepted he) hfields
      exact body_eq hr hplace he fields hread
    | _ => simp only [Enrolments.fits, Bool.false_eq_true] at hfits
  | .text _, hfits | .integer _, hfits | .float _, hfits | .time _, hfits | .inert, hfits => by
    cases shape with
    | scalar s =>
      simp only [Constraint.ofTokens, agenda, plain]
      exact ifPresent_ofTokens hr hplace (WellFormed.scalar_iff.mp hform).flat rfl hfits nullable
        depth
    | inert =>
      simp only [Constraint.ofTokens, agenda, plain, Interpreter.read]
      rfl
    | _ => simp only [Enrolments.fits, Bool.false_eq_true] at hfits

theorem elements_eq_read (hr : r.Covers t) {lex : Lexicon} {tokens : List Token}
    {place : Place} {label : String} (hplace : place.path? = some label) {shape : Shape}
    (hform : WellFormed lex shape tokens) (index depth : Nat) :
    (items : List Value) → r.enrolments.allFit shape items = true →
      Transcript.ofInquiries
          (t.elements (.ofTokens lex shape tokens) place index depth items) =
        r.readElements lex shape tokens label index depth items
  | [], _ => by
    simp only [elements, Interpreter.readElements]
    rfl
  | item :: rest, hfits => by
    simp only [Enrolments.allFit, Bool.and_eq_true] at hfits
    simp only [elements, Interpreter.readElements, Transcript.ofInquiries_append]
    rw [agenda_eq_read hr (Place.path?_element hplace index) hform false depth item hfits.1,
      elements_eq_read hr hplace hform (index + 1) depth rest hfits.2]

theorem fields_eq_read (hr : r.Covers t) {lex : Lexicon} {place : Place} {path : Option String}
    (hpath : place.path? = path) (blueprint : Blueprint) (tag : TypeTag) (depth : Nat) :
    (values : List Value) → (decls : List FieldDecl) →
      (∀ decl ∈ decls, decl.Accepted lex) → r.enrolments.fieldsFit values decls = true →
      Transcript.ofInquiries
          (t.fields blueprint place tag depth values (decls.map (.ofDecl lex tag))) =
        r.readFields lex path depth values decls
  | [], _, _, _ => by
    simp only [fields, Interpreter.readFields]
    rfl
  | _ :: _, [], _, _ => by
    simp only [List.map_nil, fields, Interpreter.readFields]
    rfl
  | value :: values, decl :: decls, haccepted, hfits => by
    obtain ⟨hdecl, hrest⟩ := List.forall_mem_cons.mp haccepted
    simp only [Enrolments.fieldsFit, Bool.and_eq_true] at hfits
    simp only [List.map_cons, fields, Interpreter.readFields, Transcript.ofInquiries_append]
    rw [fields_eq_read hr hpath blueprint tag depth values decls hrest hfits.2]
    cases decl with
    | skipped name => rfl
    | checked name type rules =>
      have hplace : (place.field name).path? = some (Scope.fieldLabel path name) := by
        rw [Place.path?_field, hpath]
      by_cases hrules : rules = ""
      · subst hrules
        rfl
      · have hform := hdecl.resolve_left hrules
        have hread := agenda_eq_read hr hplace hform false depth value hfits.1
        simp only [FieldPlan.ofDecl, Constraint.ofText, if_neg hrules, ne_eq, not_true, if_false,
          ite_isUnchecked, hread]

end

end Terrain

namespace Inspector

/-- What an interpreter knows that is to check records as the inspector does. -/
def interpreter (i : Inspector) (es : Enrolments) (now : Instant) : Interpreter :=
  ⟨es, i.settings.maxDepth, now⟩

theorem Built.covers {i : Inspector} {es : Enrolments} (h : Built i es) (now : Instant) :
    (i.interpreter es now).Covers (i.terrain now) where
  limit := rfl
  now := rfl
  valid := h.valid
  find?_blueprints := h.find?_blueprints

theorem transcript_eq_readRecord {i : Inspector} {es : Enrolments} (h : Built i es)
    (now : Instant) (r : Record)
    (hfits : es.fits (.record r.tag) (.record r.tag r.fields) = true) :
    i.transcript now r = (i.interpreter es now).readRecord r := by
  have hr := h.covers now
  have hroot : Place.root.path? = none := rfl
  simp only [Enrolments.fits, beq_self_eq_true, Bool.true_and] at hfits
  refine Terrain.entry_eq hr hroot r.tag 0 fun e he => ?_
  have he' : es.find? r.tag = some e := he
  rw [he'] at hfits
  have hread := Terrain.fields_eq_read hr hroot e.blueprint r.tag 1 r.fields e.type.fields
    (hr.valid.accepted he) hfits
  exact Terrain.body_eq hr hroot he r.fields hread

/-- To compile annotations and to check records by what was compiled is to read the
annotations directly: in every inspector that can be built, the violations of a
record, or the first fault, are those that the interpreter finds. -/
theorem violations_eq_reading {i : Inspector} {es : Enrolments} (h : Built i es)
    (now : Instant) (r : Record)
    (hfits : es.fits (.record r.tag) (.record r.tag r.fields) = true) :
    i.violations now r = ((i.interpreter es now).readRecord r).outcome := by
  rw [violations_eq, transcript_eq_readRecord h now r hfits]

theorem violations_eq_reading_user :
    ∃ i, register {} .user = .ok i ∧ i.violations ⟨0⟩ .user = .ok ⟨[
      ⟨"name", "name can not be longer than 3 characters", "max"⟩,
      ⟨"tags", "tags must have at least 3 elements", "min"⟩, .required "tags[1]",
      .required "boss.name", ⟨"boss.tags", "boss.tags must have at least 3 elements", "min"⟩,
      .required "boss.boss"]⟩ := by
  obtain ⟨i, hregister⟩ : ∃ i, register {} .user = .ok i :=
    (isSome_toOption _).mp (by cbv)
  have hbuilt := Built.register .user (.new {}) hregister
  refine ⟨i, hregister, ?_⟩
  rw [violations_eq_reading hbuilt ⟨0⟩ .user (by cbv)]
  obtain ⟨-, -, rfl⟩ := register_eq_ok_iff.mp hregister
  cbv

end Inspector

end RecordValidation
