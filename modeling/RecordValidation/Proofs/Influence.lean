import RecordValidation.Proofs.Pointers
import RecordValidation.Proofs.Soundness

/-!
What a check depends on. Data that no annotation asks for can not make a difference: what
is skipped, has an empty annotation or is of a kind that rules do not know, and the elements
of sequences that no rule dives into. Only rules that are given a whole sequence or record
could tell such data apart.
-/

namespace RecordValidation

open Annotation

/-- Two data of a type that differ only where neither the tokens of an annotation ask for
anything, nor the annotations of the record types within. -/
inductive Enrolments.Coincide (es : Enrolments) :
    FieldType → List Token → Datum → Datum → Prop
  | refl (type : FieldType) (ts : List Token) (d : Datum) : es.Coincide type ts d d
  | inert {type : FieldType} (ts : List Token) (h : type.shape.core = .inert)
      (d d' : Datum) : es.Coincide type ts d d'
  | some {inner : FieldType} {ts : List Token} {d d' : Datum}
      (h : es.Coincide inner ts d d') :
      es.Coincide (.option inner) ts (.some d) (.some d')
  | boxed {inner : FieldType} {ts : List Token} {d d' : Datum}
      (h : es.Coincide inner ts d d') :
      es.Coincide (.boxed inner) ts (.boxed d) (.boxed d')
  | counted (element : FieldType) {ts : List Token} (hflat : Flat ts)
      {items items' : List Datum} (hlength : items.length = items'.length) :
      es.Coincide (.sequence element) ts (.sequence items) (.sequence items')
  | elements {element : FieldType} {head tail : List Token} (hflat : Flat head)
      {items items' : List Datum} (hlength : items.length = items'.length)
      (h : ∀ (index : Nat) d d', items[index]? = .some d → items'[index]? = .some d' →
        es.Coincide element tail d d') :
      es.Coincide (.sequence element) (head ++ Token.dive :: tail) (.sequence items)
        (.sequence items')
  | record (declared : TypeTag) (ts : List Token) {tag : TypeTag}
      {fields fields' : List Datum} (hlength : fields.length = fields'.length)
      (h : ∀ e, es.find? tag = .some e → ∀ (index : Nat) name type rules d d',
        e.type.fields[index]? = .some (.checked name type rules) → rules ≠ "" →
        fields[index]? = .some d → fields'[index]? = .some d' →
        es.Coincide type (tokens rules) d d') :
      es.Coincide (.record declared) ts (.record tag fields) (.record tag fields')

namespace Datum

theorem views_eq (items : List Datum) : view.views items = items.map view := by
  induction items with
  | nil => rfl
  | cons d rest ih => rw [view.views, ih, List.map_cons]

end Datum

/-- Constraints without custom rules that are given a whole sequence or record. -/
def Constraint.Discreet (c : Constraint) : Prop :=
  ∀ r, (Station.sequence, r) ∉ c.bindings ∧ (Station.record, r) ∉ c.bindings

namespace Constraint.Discreet

variable {head : Segment Nat Empty} {element : Constraint}

theorem custom_of_sequence (h : (Constraint.sequence head element).Discreet) :
    head.custom = [] := by
  apply List.eq_nil_iff_forall_not_mem.mpr
  intro r hr
  exact (h r).1 (List.mem_append_left _ (List.mem_map_of_mem hr))

theorem of_sequence (h : (Constraint.sequence head element).Discreet) : element.Discreet := by
  intro r
  constructor
  · exact fun hr => (h r).1 (List.mem_append_right _ hr)
  · exact fun hr => (h r).2 (List.mem_append_right _ hr)

theorem custom_of_record {head : Segment Empty Empty} (h : (Constraint.record head).Discreet) :
    head.custom = [] := by
  apply List.eq_nil_iff_forall_not_mem.mpr
  intro r hr
  exact (h r).2 (List.mem_map_of_mem hr)

end Constraint.Discreet

/-- Fields of an inert kind are not checked, whatever their annotations are. -/
theorem Constraint.ofTokens_of_core_inert (lex : Lexicon) (tokens : List Token) {shape : Shape}
    (h : shape.core = .inert) : ofTokens lex shape tokens = .unchecked := by
  induction shape with
  | optional inner ih =>
    rw [Shape.core_optional] at h
    have hplain : ∀ s, inner.core ≠ .scalar s := by
      intro s hs
      rw [h] at hs
      cases hs
    rw [ofTokens_optional_of_plain (.inr hplain), ih h]
  | inert => rfl
  | scalar s | sequence element | record tag => cases h

/-- Data of a scalar type coincide only if they are read as the same value. -/
theorem Enrolments.Coincide.view_eq_of_scalar {es : Enrolments} {type : FieldType}
    {tokens : List Token} {d d' : Datum} (h : es.Coincide type tokens d d') {s : Scalar}
    (hcore : type.shape.core = .scalar s) : d.view = d'.view := by
  induction h with
  | refl type tokens d => rfl
  | inert tokens hinert d d' =>
    rw [hinert] at hcore
    cases hcore
  | some h ih => exact congrArg Value.just (ih hcore)
  | boxed h ih => exact ih hcore
  | counted | elements | record => cases hcore

namespace Scope

variable (s : Scope)

theorem checkElements_unchecked (label : String) (index : Nat) (items : List Value) :
    s.checkElements .unchecked label index items = pure () := by
  induction items generalizing index with
  | nil => rw [checkElements]
  | cons item rest ih => rw [checkElements, check_unchecked, ih, pure_bind]

/-- Elements are checked alike if those with the same index are. -/
theorem checkElements_congr {c : Constraint} {items items' : List Datum}
    (hlength : items.length = items'.length)
    (h : ∀ (index : Nat) d d', items[index]? = some d → items'[index]? = some d' → ∀ label,
      s.check c false label d.view = s.check c false label d'.view)
    (label : String) (first : Nat) :
    s.checkElements c label first (items.map Datum.view) =
      s.checkElements c label first (items'.map Datum.view) := by
  induction items generalizing items' first with
  | nil =>
    cases items' with
    | nil => rfl
    | cons d' rest' => cases hlength
  | cons d rest ih =>
    cases items' with
    | nil => cases hlength
    | cons d' rest' =>
      have hfirst := h 0 d d' rfl rfl
      have hrest := ih (Nat.succ.inj hlength) (fun index => h (index + 1)) (first + 1)
      simp only [List.map_cons, checkElements, hfirst, hrest]

/-- Fields are checked alike if those with the same plan are. -/
theorem checkFields_congr {plans : List FieldPlan} {fields fields' : List Datum}
    (hlength : fields.length = fields'.length)
    (h : ∀ (index : Nat) plan d d', plans[index]? = some plan → fields[index]? = some d →
      fields'[index]? = some d' → ∀ label,
      s.check plan.constraint false label d.view = s.check plan.constraint false label d'.view)
    (blueprint : Blueprint) (path : Option String) (tag : TypeTag) :
    s.checkFields blueprint path tag (fields.map Datum.view) plans =
      s.checkFields blueprint path tag (fields'.map Datum.view) plans := by
  induction fields generalizing fields' plans with
  | nil =>
    cases fields' with
    | nil => rfl
    | cons d' rest' => cases hlength
  | cons d rest ih =>
    cases fields' with
    | nil => cases hlength
    | cons d' rest' =>
      cases plans with
      | nil => simp only [List.map_cons, checkFields]
      | cons plan plans =>
        have hfirst := h 0 plan d d' rfl rfl rfl
        have hrest := ih (Nat.succ.inj hlength) fun index => h (index + 1)
        simp only [List.map_cons, checkFields, hfirst, hrest]

/-- What counts for a declared field is its annotation, if it has one. -/
theorem check_ofDecl {lex : Lexicon} {owner : TypeTag} {decl : FieldDecl} {label : String}
    {value value' : Value}
    (h : ∀ name type rules, decl = .checked name type rules → rules ≠ "" →
      s.check (.ofTokens lex type.shape (tokens rules)) false label value =
        s.check (.ofTokens lex type.shape (tokens rules)) false label value') :
    s.check (FieldPlan.ofDecl lex owner decl).constraint false label value =
      s.check (FieldPlan.ofDecl lex owner decl).constraint false label value' := by
  cases decl with
  | skipped name =>
    rw [FieldPlan.ofDecl, check_unchecked, check_unchecked]
  | checked name type rules =>
    rw [FieldPlan.ofDecl, Constraint.ofText]
    by_cases hrules : rules = ""
    · rw [if_pos hrules, check_unchecked, check_unchecked]
    · rw [if_neg hrules]
      exact h name type rules rfl hrules

theorem enter_congr {path : Option String} {tag : TypeTag} {body body' : Blueprint → SurveyM Unit}
    (h : ∀ blueprint, s.blueprints.find? tag = some blueprint → body blueprint = body' blueprint) :
    s.enter path tag body = s.enter path tag body' := by
  unfold enter
  cases hfind : s.blueprints.find? tag with
  | none => rfl
  | some blueprint =>
    dsimp only
    rw [h blueprint hfind]

end Scope

/-- A scope with the blueprints of enrolments, and without rules that are given a whole
sequence or record. -/
structure Scope.Discreet (s : Scope) (es : Enrolments) : Prop where
  find?_blueprints : ∀ tag,
    s.blueprints.find? tag = (es.find? tag).map Enrolment.blueprint
  recordRules : ∀ {tag b}, s.blueprints.find? tag = some b → b.recordRules = []
  constraints : ∀ {tag b}, s.blueprints.find? tag = some b →
    ∀ plan ∈ b.fields, plan.constraint.Discreet

namespace Scope.Discreet

open Scope

variable {s : Scope} {es : Enrolments}

theorem ofTokens (hs : s.Discreet es) {tag : TypeTag} {e : Enrolment}
    (he : es.find? tag = some e) {index : Nat} {name rules : String} {type : FieldType}
    (hdecl : e.type.fields[index]? = some (.checked name type rules)) (hrules : rules ≠ "") :
    (Constraint.ofTokens e.lexicon type.shape (tokens rules)).Discreet := by
  have hblueprint : s.blueprints.find? tag = some e.blueprint := by
    rw [hs.find?_blueprints, he, Option.map_some]
  have hplan := hs.constraints hblueprint _ (List.mem_map_of_mem (List.mem_of_getElem? hdecl))
  rwa [FieldPlan.ofDecl, Constraint.ofText, if_neg hrules] at hplan

/-- Records are checked alike if all of their fields are that have an annotation. -/
theorem enter_eq (hs : s.Discreet es) {tag : TypeTag} {fields fields' : List Datum}
    (hlength : fields.length = fields'.length)
    (h : ∀ e, es.find? tag = some e → ∀ (index : Nat) name type rules d d',
      e.type.fields[index]? = some (.checked name type rules) → rules ≠ "" →
      fields[index]? = some d → fields'[index]? = some d' → ∀ label,
      s.check (.ofTokens e.lexicon type.shape (tokens rules)) false label d.view =
        s.check (.ofTokens e.lexicon type.shape (tokens rules)) false label d'.view)
    (path : Option String) :
    (s.enter path tag fun blueprint => do
        s.checkFields blueprint path tag (fields.map Datum.view) blueprint.fields
        s.applyRecordRules blueprint path tag (fields.map Datum.view) blueprint.recordRules) =
      (s.enter path tag fun blueprint => do
        s.checkFields blueprint path tag (fields'.map Datum.view) blueprint.fields
        s.applyRecordRules blueprint path tag (fields'.map Datum.view)
          blueprint.recordRules) := by
  refine s.enter_congr fun blueprint hblueprint => ?_
  rw [hs.recordRules hblueprint]
  rw [hs.find?_blueprints] at hblueprint
  obtain ⟨e, he, rfl⟩ := Option.map_eq_some_iff.mp hblueprint
  rw [s.checkFields_congr hlength ?_ e.blueprint path tag]
  · rfl
  intro index plan d d' hplan hd hd' label
  rw [Enrolment.blueprint, List.getElem?_map] at hplan
  obtain ⟨decl, hdecl, rfl⟩ := Option.map_eq_some_iff.mp hplan
  refine s.check_ofDecl fun name type rules heq hrules => ?_
  rw [heq] at hdecl
  exact h e he index name type rules d d' hdecl hrules hd hd' label

/-- Data that coincide are checked alike. -/
theorem check_eq (hs : s.Discreet es) {type : FieldType} {tokens : List Token} {d d' : Datum}
    (h : es.Coincide type tokens d d') {lex : Lexicon}
    (hc : (Constraint.ofTokens lex type.shape tokens).Discreet) (nullable : Bool)
    (label : String) :
    s.check (.ofTokens lex type.shape tokens) nullable label d.view =
      s.check (.ofTokens lex type.shape tokens) nullable label d'.view := by
  induction h generalizing lex nullable label with
  | refl type tokens d => rfl
  | inert tokens hinert d d' =>
    rw [Constraint.ofTokens_of_core_inert lex tokens hinert, check_unchecked, check_unchecked]
  | @some inner tokens d d' h ih =>
    rcases Constraint.plain_or_pointer inner.shape tokens with
      hplain | ⟨scalar, head, tail, hcore, -, -⟩
    · rw [FieldType.shape, Constraint.ofTokens_optional_of_plain hplain] at hc ⊢
      have hne : ∀ head target, Constraint.ofTokens lex inner.shape tokens ≠
          .pointer head target := Constraint.ofTokens_ne_pointer hplain
      rw [Datum.view, Datum.view, s.check_just nullable label hne, s.check_just nullable label hne]
      exact ih hc true label
    · rw [Datum.view, Datum.view, h.view_eq_of_scalar hcore]
  | boxed h ih => exact ih hc nullable label
  | counted element hflat hlength =>
    rw [FieldType.shape, Constraint.ofTokens, splitDive_of_flat hflat] at hc ⊢
    simp only [Datum.view, Datum.views_eq, check, checkElements_unchecked, checkSegment,
      hc.custom_of_sequence, applyCustom, List.length_map, hlength]
  | elements hflat hlength h ih =>
    rw [FieldType.shape, Constraint.ofTokens, splitDive_append hflat] at hc ⊢
    simp only [Datum.view, Datum.views_eq, check, checkSegment, hc.custom_of_sequence,
      applyCustom, List.length_map, hlength]
    rw [s.checkElements_congr hlength ?_ label 0]
    intro index d d' hd hd'
    exact ih index d d' hd hd' hc.of_sequence false
  | record declared tokens hlength h ih =>
    rw [FieldType.shape, Constraint.ofTokens] at hc ⊢
    simp only [Datum.view, Datum.views_eq, check, hc.custom_of_record, applyCustom]
    rw [hs.enter_eq hlength ?_ (some label)]
    intro e he index name type rules d d' hdecl hrules hd hd'
    exact ih e he index name type rules d d' hdecl hrules hd hd' (hs.ofTokens he hdecl hrules) false

end Scope.Discreet

namespace Inspector

variable {i : Inspector} {es : Enrolments}

theorem Built.fieldNames? (h : Built i es) {tag : TypeTag} {e : Enrolment}
    (he : es.find? tag = some e) :
    i.fieldNames? tag = some (e.type.fields.map FieldDecl.name) := by
  rw [Inspector.fieldNames?, h.find?_blueprints, he, Option.map_some, Option.map_some,
    e.fieldNames_blueprint]

theorem Built.discreet (h : Built i es)
    (hrules : ∀ tag b, i.blueprints.find? tag = some b → b.recordRules = [])
    (hbinds : ∀ r, ¬i.Binds .sequence r ∧ ¬i.Binds .record r) (extent : Extent)
    (now : Instant) : (i.scope extent now).Discreet es where
  find?_blueprints := h.find?_blueprints
  recordRules := hrules _ _
  constraints {tag b} hb plan hplan r :=
    ⟨fun hr => (hbinds r).1 ⟨tag, b, hb, plan, hplan, hr⟩,
      fun hr => (hbinds r).2 ⟨tag, b, hb, plan, hplan, hr⟩⟩

theorem Built.inspect_eq (h : Built i es)
    (hrules : ∀ tag b, i.blueprints.find? tag = some b → b.recordRules = [])
    (hbinds : ∀ r, ¬i.Binds .sequence r ∧ ¬i.Binds .record r) {tag : TypeTag}
    {fields fields' : List Datum}
    (hsame : es.Coincide (.record tag) [] (.record tag fields) (.record tag fields'))
    (extent : Extent) (now : Instant) :
    i.inspect extent now ⟨tag, fields.map Datum.view⟩ =
      i.inspect extent now ⟨tag, fields'.map Datum.view⟩ := by
  have hs := h.discreet hrules hbinds extent now
  cases hsame with
  | refl => rfl
  | inert _ hinert => cases hinert
  | record _ _ hlength hfields =>
    refine congrArg Survey.outcome (hs.enter_eq hlength ?_ none)
    intro e he index name type rules d d' hdecl hrules hd hd' label
    have hfield := hfields e he index name type rules d d' hdecl hrules hd hd'
    exact hs.check_eq hfield (hs.ofTokens he hdecl hrules) false label

/-- Data that no annotation asks for do not have any influence, where no rule is given a
whole record or sequence: the answers are the same for all records that differ in nothing
else, faults included. Their fields are listed all the same. -/
theorem unvalidated_data_without_influence (h : Built i es)
    (hrules : ∀ tag b, i.blueprints.find? tag = some b → b.recordRules = [])
    (hbinds : ∀ r, ¬i.Binds .sequence r ∧ ¬i.Binds .record r) {tag : TypeTag} {e : Enrolment}
    (he : es.find? tag = some e) {fields fields' : List Datum}
    (hsame : es.Coincide (.record tag) [] (.record tag fields) (.record tag fields'))
    (now : Instant) :
    i.violation? now ⟨tag, fields.map Datum.view⟩ =
        i.violation? now ⟨tag, fields'.map Datum.view⟩ ∧
      i.violations now ⟨tag, fields.map Datum.view⟩ =
        i.violations now ⟨tag, fields'.map Datum.view⟩ ∧
      i.fieldNames? tag = some (e.type.fields.map FieldDecl.name) := by
  refine ⟨?_, h.inspect_eq hrules hbinds hsame .all now, h.fieldNames? he⟩
  exact congrArg (·.map Violations.first?) (h.inspect_eq hrules hbinds hsame .first now)

/-- A record type with fields that are not looked at. It leads to itself. -/
def crew : RecordType where
  tag := ⟨3, "Crew"⟩
  fields := [
    .checked "name" .text "req",
    .skipped "note",
    .checked "active" .flag "req",
    .checked "motto" .text "",
    .checked "tags" (.sequence .text) "max:1",
    .checked "members" (.sequence (.boxed (.record ⟨3, "Crew"⟩))) "dive|req"]

/-- The data of a crew, with the same in all fields that are not looked at. -/
def crewData (name : String) (unseen : Datum) (tags members : List Datum) : List Datum :=
  [.text name, unseen, unseen, unseen, .sequence tags, .sequence members]

theorem coincide_crew {es : Enrolments} {lex : Lexicon}
    (hes : es.find? ⟨3, "Crew"⟩ = some ⟨crew, lex, []⟩) (ts : List Token) (name : String)
    (unseen unseen' : Datum) {tags tags' members members' : List Datum}
    (htags : tags.length = tags'.length) (hmembers : members.length = members'.length)
    (h : ∀ (index : Nat) d d', members[index]? = some d → members'[index]? = some d' →
      es.Coincide (.boxed (.record ⟨3, "Crew"⟩)) [⟨"req", none⟩] d d') :
    es.Coincide (.record ⟨3, "Crew"⟩) ts
      (.record ⟨3, "Crew"⟩ (crewData name unseen tags members))
      (.record ⟨3, "Crew"⟩ (crewData name unseen' tags' members')) := by
  have hmax : tokens "max:1" = [⟨"max", some "1"⟩] := by cbv
  have hdive : tokens "dive|req" = [] ++ Token.dive :: [⟨"req", none⟩] := by cbv
  refine .record _ _ rfl ?_
  intro e he index name type rules d d' hdecl hrules hd hd'
  rw [hes] at he
  cases he
  rcases index with _ | _ | _ | _ | _ | _ | index <;> cases hdecl <;> cases hd <;> cases hd'
  · exact .refl _ _ _
  · exact .inert _ rfl _ _
  · exact absurd rfl hrules
  · rw [hmax]
    exact .counted _ (by unfold Flat; decide) htags
  · rw [hdive]
    exact .elements (List.forall_mem_nil _) hmembers h

/-- With crews there are no rules for whole sequences or records. -/
theorem discreet_crew {i : Inspector} (h : register {} crew = .ok i) :
    (∀ tag b, i.blueprints.find? tag = some b → b.recordRules = []) ∧
      ∀ station r, ¬i.Binds station r := by
  obtain ⟨-, -, rfl⟩ := register_eq_ok_iff.mp h
  have hfind : ∀ tag b, (Roster.empty.insert crew.tag
      (Enrolment.blueprint ⟨crew, lexicon {}, []⟩)).find? tag = some b →
      b = Enrolment.blueprint ⟨crew, lexicon {}, []⟩ := by
    intro tag b hb
    rw [Roster.find?_insert] at hb
    split at hb
    · exact (Option.some.inj hb).symm
    · cases hb
  have hbindings : (Enrolment.blueprint ⟨crew, lexicon {}, []⟩).fields.flatMap
      (·.constraint.bindings) = [] := by cbv
  constructor
  · intro tag b hb
    rw [hfind tag b hb]
    rfl
  · rintro station r ⟨tag, b, hb, plan, hplan, hr⟩
    rw [hfind tag b hb] at hplan
    have hnone := List.flatMap_eq_nil_iff.mp hbindings plan hplan
    rw [hnone] at hr
    cases hr

/-- Two crews with one member each, in which all that is not looked at is different. -/
theorem unvalidated_data_without_influence_crew :
    let member (unseen tag : Datum) : Datum :=
      .boxed (.record ⟨3, "Crew"⟩ (crewData "" unseen [tag] []))
    let data := crewData "Ann" (.text "new") [.text "a", .text "b"] [member (.flag true) .none]
    let data' := crewData "Ann" .none [.integer 7, .none] [member (.integer 3) (.text "c")]
    let found : List Violation := [
      ⟨"tags", "tags can not have more than 1 elements", "max"⟩, .required "members[0].name"]
    ∃ i, register {} crew = .ok i ∧
      i.violations ⟨0⟩ ⟨⟨3, "Crew"⟩, data.map Datum.view⟩ = .ok ⟨found⟩ ∧
      i.violations ⟨0⟩ ⟨⟨3, "Crew"⟩, data'.map Datum.view⟩ = .ok ⟨found⟩ := by
  intro member data data' found
  obtain ⟨i, hregister⟩ : ∃ i, register {} crew = .ok i := (isSome_toOption _).mp (by cbv)
  obtain ⟨es, hbuilt, hcrew⟩ : ∃ es, Built i es ∧
      es.find? ⟨3, "Crew"⟩ = some ⟨crew, lexicon {}, []⟩ :=
    ⟨_, .register crew (.new {}) hregister, by rw [Roster.find?_insert]; rfl⟩
  obtain ⟨hrules, hbinds⟩ := discreet_crew hregister
  have hmember : es.Coincide (.boxed (.record ⟨3, "Crew"⟩)) [⟨"req", none⟩]
      (member (.flag true) .none) (member (.integer 3) (.text "c")) := by
    refine .boxed (coincide_crew hcrew _ _ _ _ rfl rfl fun index d d' hd => ?_)
    cases hd
  have hsame : es.Coincide (.record ⟨3, "Crew"⟩) [] (.record ⟨3, "Crew"⟩ data)
      (.record ⟨3, "Crew"⟩ data') := by
    refine coincide_crew hcrew _ _ _ _ rfl rfl fun index d d' hd hd' => ?_
    rcases index with _ | index
    · cases hd
      cases hd'
      exact hmember
    · cases hd
  obtain ⟨-, hviolations, -⟩ := unvalidated_data_without_influence hbuilt hrules
    (fun r => ⟨hbinds _ r, hbinds _ r⟩) hcrew hsame ⟨0⟩
  have hanswer : i.violations ⟨0⟩ ⟨⟨3, "Crew"⟩, data.map Datum.view⟩ = .ok ⟨found⟩ := by
    obtain ⟨-, -, rfl⟩ := register_eq_ok_iff.mp hregister
    cbv
  exact ⟨i, hregister, hanswer, hviolations.symm.trans hanswer⟩

end Inspector

end RecordValidation
