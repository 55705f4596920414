import RecordValidation.Proofs.Guard
import RecordValidation.Proofs.Pointers

/-!
Layers of options and boxes around the type of a field. Registration strips them all at once,
and a check takes them off a value one by one; apart from optional scalars with a dive, both
come to the same for any number of options as for one of them, and boxes make no difference
at all. With one option a zero is a value like any other; what is absent is a null, wherever
among the layers it stands.
-/

namespace RecordValidation

open Annotation

inductive Layer
  | option
  | boxed
  deriving DecidableEq, Repr

/-- A type with layers around it, of which the first is the outermost. -/
def FieldType.wrap (type : FieldType) : List Layer → FieldType
  | [] => type
  | .option :: rest => .option (type.wrap rest)
  | .boxed :: rest => .boxed (type.wrap rest)

/-- A datum of such a type. -/
def Datum.wrap (d : Datum) : List Layer → Datum
  | [] => d
  | .option :: rest => .some (d.wrap rest)
  | .boxed :: rest => .boxed (d.wrap rest)

theorem FieldType.shape_wrap (type : FieldType) (layers : List Layer) :
    (type.wrap layers).shape = Shape.optional^[layers.count .option] type.shape := by
  induction layers with
  | nil => rfl
  | cons layer rest ih =>
    cases layer with
    | option =>
      rw [List.count_cons_self, Function.iterate_succ_apply', ← ih]
      rfl
    | boxed =>
      rw [List.count_cons_of_ne (by decide), ← ih]
      rfl

theorem Datum.view_wrap (d : Datum) (layers : List Layer) :
    (d.wrap layers).view = Value.just^[layers.count .option] d.view := by
  induction layers with
  | nil => rfl
  | cons layer rest ih =>
    cases layer with
    | option =>
      rw [List.count_cons_self, Function.iterate_succ_apply', ← ih]
      rfl
    | boxed =>
      rw [List.count_cons_of_ne (by decide), ← ih]
      rfl

theorem Shape.core_of_not_optional {shape : Shape} (h : shape.kind ≠ .optional) :
    shape.core = shape := by
  cases shape with
  | optional inner => exact absurd rfl h
  | scalar _ | sequence _ | record _ | inert => rfl

namespace Constraint

variable {lex : Lexicon} {shape : Shape} {ts : List Token} {text : String}

theorem compile_optional_iterate (hplain : Flat ts ∨ ∀ s, shape.core ≠ .scalar s) (count : Nat) :
    compile lex (Shape.optional^[count] shape) ts = compile lex shape ts := by
  induction count with
  | zero => rfl
  | succ count ih =>
    rw [← Shape.core_optional_iterate count shape] at hplain
    rw [Function.iterate_succ_apply', compile_optional_of_plain hplain, ih]

/-- The layers around a type make no difference to how an annotation is compiled. -/
theorem ofAnnotation_wrap {type : FieldType}
    (hplain : Flat (tokens text) ∨ ∀ s, type.shape.core ≠ .scalar s) (layers : List Layer) :
    ofAnnotation lex (type.wrap layers).shape text = ofAnnotation lex type.shape text := by
  by_cases hne : text = ""
  · subst hne
    rfl
  · rw [ofAnnotation_of_ne hne, ofAnnotation_of_ne hne, FieldType.shape_wrap,
      compile_optional_iterate hplain]

theorem ofText_ne_pointer (hplain : Flat (tokens text) ∨ ∀ s, shape.core ≠ .scalar s)
    (head : Segment Empty Empty) (target : ScalarConstraint) :
    ofText lex shape text ≠ .pointer head target := by
  rw [ofText]
  split
  · nofun
  · exact ofTokens_ne_pointer hplain head target

/-- Whether an absent value is reported. -/
def required : Constraint → Bool
  | .unchecked => false
  | .scalar target => target.required
  | .pointer head _ => head.required
  | .sequence head _ => head.required
  | .record head => head.required

/-- A value is required by the rules before the first dive. -/
theorem required_ofText (hoptional : shape.kind ≠ .optional) (hinert : shape.kind ≠ .inert)
    (hform : text = "" ∨ WellFormed lex shape (tokens text)) :
    (ofText lex shape text).required =
      (splitDive (tokens text)).1.any (·.is .required) := by
  by_cases hne : text = ""
  · subst hne
    rfl
  rw [ofText, if_neg hne]
  cases shape with
  | scalar s =>
    have hflat := (WellFormed.scalar_iff.mp (hform.resolve_left hne)).flat
    rw [splitDive_of_flat hflat]
    exact Terrain.required_ofTokens s
  | sequence element =>
    rw [ofTokens]
    obtain ⟨head, _ | tail⟩ := splitDive (tokens text)
    · rfl
    · rfl
  | record tag => rfl
  | optional inner => exact absurd rfl hoptional
  | inert => exact absurd rfl hinert

end Constraint

namespace Blueprint

variable {lex : Lexicon} {owner : TypeTag} {decl decl' : FieldDecl}

theorem compileFields_congr (h : compileField lex owner decl = compileField lex owner decl')
    (before after : List FieldDecl) :
    compileFields lex owner (before ++ decl :: after) =
      compileFields lex owner (before ++ decl' :: after) := by
  induction before with
  | nil => rw [List.nil_append, List.nil_append, compileFields, compileFields, h]
  | cons first before ih =>
    rw [List.cons_append, List.cons_append, compileFields, compileFields, ih]

end Blueprint

/-- Registration does not see the layers around a type, neither in what it accepts nor in how
it refuses the rest. -/
theorem Inspector.register_wrap (i : Inspector) {type : FieldType} {text : String}
    (hplain : Flat (tokens text) ∨ ∀ s, type.shape.core ≠ .scalar s) (layers : List Layer)
    (tag : TypeTag) (before after : List FieldDecl) (name : String) :
    i.register ⟨tag, before ++ .checked name (type.wrap layers) text :: after⟩ =
      i.register ⟨tag, before ++ .checked name type text :: after⟩ := by
  have hfield : Blueprint.compileField i.lexicon tag (.checked name (type.wrap layers) text) =
      Blueprint.compileField i.lexicon tag (.checked name type text) := by
    rw [Blueprint.compileField, Blueprint.compileField, Constraint.ofAnnotation_wrap hplain]
  simp only [register, Blueprint.ofType, Blueprint.compileFields_congr hfield before after]

theorem Value.present?_of_not_zero {value : Value} (h : value.isZero = false)
    (nullable nullable' : Bool) : value.present? nullable = value.present? nullable' := by
  cases value with
  | null => cases h
  | just inner => rfl
  | _ => simp only [present?, h, Bool.and_false]

namespace Scope

variable (scope : Scope) (label : String)

theorem check_null (c : Constraint) (nullable : Bool) :
    scope.check c nullable label .null = scope.reportAbsent c.required label := by
  cases c with
  | unchecked => exact scope.check_unchecked nullable label .null
  | pointer head target => exact scope.check_pointer_null nullable label head target
  | _ => simp only [check, checkPlain, checkIfPresent, Value.present?, Constraint.required]

/-- All optional layers but the outermost make no difference. -/
theorem check_just_iterate {c : Constraint} (hne : ∀ head target, c ≠ .pointer head target)
    (count : Nat) (nullable : Bool) (value : Value) :
    scope.check c nullable label (Value.just^[count + 1] value) =
      scope.check c true label value := by
  induction count generalizing nullable with
  | zero => exact scope.check_just nullable label hne value
  | succ count ih =>
    rw [Function.iterate_succ_apply', scope.check_just nullable label hne, ih]

/-- Only for a zero it matters whether its place is nullable. -/
theorem check_of_not_zero (c : Constraint) {value : Value} (h : value.isZero = false)
    (nullable nullable' : Bool) :
    scope.check c nullable label value = scope.check c nullable' label value := by
  have hplain : scope.checkPlain nullable label value c =
      scope.checkPlain nullable' label value c := by
    cases c <;> simp only [checkPlain, Value.present?_of_not_zero h nullable nullable']
  cases value with
  | just inner => cases c <;> simp only [check]
  | sequence items | record tag fields =>
    cases c <;> simp only [check]
    all_goals exact hplain
  | _ =>
    simp only [check]
    exact hplain

/-- The rules of a scalar at a value of its kind, as they are read from the tokens. -/
theorem checkScalar_ofTokens {r : Interpreter} (hnow : r.now = scope.now) {s : Scalar}
    {value : Value} (hkind : value.kind = s.kind) (lex : Lexicon) (ts : List Token) :
    scope.checkScalar label (.ofTokens lex ts s) value = (do
      scope.reportAll (r.builtin label value ts).found
      scope.applyCustom label value (ScalarConstraint.ofTokens lex ts s).custom) := by
  cases s with
  | text =>
    cases value with
    | text x =>
      rw [← failures_ofTokens (Gauge.text_measures r.now x)]
      rfl
    | _ => cases hkind
  | integer =>
    cases value with
    | integer n =>
      rw [← failures_ofTokens (Gauge.whole_measures r.now n)]
      rfl
    | _ => cases hkind
  | float =>
    cases value with
    | float x =>
      rw [← failures_ofTokens (Gauge.float_measures r.now x)]
      rfl
    | _ => cases hkind
  | time =>
    cases value with
    | time t =>
      rw [← failures_ofTokens (Gauge.time_measures r.now t), hnow]
      rfl
    | _ => cases hkind

end Scope

theorem Interpreter.code_builtin_ne {r : Interpreter} {label : String} {value : Value}
    {ts : List Token} {v : Violation} (h : v ∈ (r.builtin label value ts).found) :
    v.code ≠ Violation.requiredCode := by
  have hnames : ∀ b ∈ [Builtin.greatest, .least, .pattern, .member],
      b.name ≠ Violation.requiredCode := by decide
  obtain ⟨b, hb, hv⟩ := List.mem_flatMap.mp h
  obtain ⟨text, -, rfl⟩ := List.mem_map.mp hv
  exact hnames b hb

namespace Constraint

variable {lex : Lexicon} {type : FieldType} {text : String} {s : Scalar} {value : Value}

/-- A zero of a scalar is absent in a plain field. -/
theorem check_ofText_zero (hshape : type.shape = .scalar s) (hkind : value.kind = s.kind)
    (hzero : value.isZero = true) (scope : Scope) (label : String) :
    scope.check (ofText lex type.shape text) false label value =
      scope.reportAbsent (ofText lex type.shape text).required label := by
  rw [hshape, ofText]
  split
  · exact scope.check_unchecked false label value
  · exact scope.check_scalar_zero label hkind hzero _

/-- In an option it is measured like any other value of its kind. -/
theorem check_ofText_some (hshape : type.shape = .scalar s) (hkind : value.kind = s.kind)
    {scope : Scope} {r : Interpreter} (hnow : r.now = scope.now) (label : String) :
    scope.check (ofText lex type.shape text) true label value = (do
      scope.reportAll (r.builtin label value (tokens text)).found
      scope.applyCustom label value (ScalarConstraint.ofTokens lex (tokens text) s).custom) := by
  rw [hshape, ofText]
  split
  · next hempty =>
    subst hempty
    rw [scope.check_unchecked]
    cases s <;> rfl
  · have hpresent : value.present? true = some value := Value.present?_of_kind hkind true
    rw [ofTokens, scope.check_scalar true label hkind, hpresent,
      ← scope.checkScalar_ofTokens label hnow hkind]
    rfl

end Constraint

/-- Options collapse. A field whose type has layers around it is registered as if there were
none, or refused as if there were none. If there is an option among the layers, a null in any
of the options is absent, as a zero would be in a plain field, and is reported if the rules
before the first dive require a value. Data in all of the layers are checked as in one option
only: as in a plain field, but for the zero of a scalar, which is measured by all rules and is
not missing. Only optional scalars whose rules have a dive are left out of account. -/
theorem Inspector.option_layers_collapse (i : Inspector) {type : FieldType}
    (hoptional : type.shape.kind ≠ .optional) (hinert : type.shape.kind ≠ .inert)
    {layers : List Layer} (hlayers : .option ∈ layers) {text : String}
    (hplain : Flat (tokens text) ∨ ∀ s, type.shape ≠ .scalar s) :
    (∀ (tag : TypeTag) (before : List FieldDecl) (name : String) (after : List FieldDecl),
      i.register ⟨tag, before ++ .checked name (type.wrap layers) text :: after⟩ =
        i.register ⟨tag, before ++ .checked name type text :: after⟩) ∧
    ∀ c, Constraint.ofAnnotation i.lexicon (type.wrap layers).shape text = .ok c →
      Constraint.ofAnnotation i.lexicon type.shape text = .ok c ∧
      ∀ (scope : Scope) (label : String),
        let absent := scope.reportAbsent ((splitDive (tokens text)).1.any (·.is .required)) label
        (∀ outer inner, layers = outer ++ .option :: inner →
          scope.check c false label (Datum.none.wrap outer).view = absent) ∧
        ∀ d : Datum,
          scope.check c false label (d.wrap layers).view =
            scope.check c false label (Datum.some d).view ∧
          (d.view.isZero = false → scope.check c false label (Datum.some d).view =
            scope.check c false label d.view) ∧
          ∀ s, type.shape = .scalar s → d.view.kind = s.kind → d.view.isZero = true →
            scope.check c false label d.view = absent ∧
            ∃ target, ScalarConstraint.compile i.lexicon (tokens text) s = .ok target ∧
            ∀ r : Interpreter, r.now = scope.now →
              scope.check c false label (Datum.some d).view = (do
                scope.reportAll (r.builtin label d.view (tokens text)).found
                scope.applyCustom label d.view target.custom) ∧
              ∀ v ∈ (r.builtin label d.view (tokens text)).found,
                v.code ≠ Violation.requiredCode := by
  have hplain' : Flat (tokens text) ∨ ∀ s, type.shape.core ≠ .scalar s := by
    rwa [Shape.core_of_not_optional hoptional]
  refine ⟨fun tag before name after => i.register_wrap hplain' layers tag before after name,
    fun c hc => ?_⟩
  rw [Constraint.ofAnnotation_wrap hplain'] at hc
  refine ⟨hc, ?_⟩
  intro scope label absent
  obtain ⟨hform, rfl⟩ := Constraint.ofAnnotation_eq_ok_iff.mp hc
  have hne : ∀ head target, Constraint.ofText i.lexicon type.shape text ≠
      .pointer head target := Constraint.ofText_ne_pointer hplain'
  have habsent : scope.reportAbsent (Constraint.ofText i.lexicon type.shape text).required label =
      absent := by
    rw [Constraint.required_ofText hoptional hinert hform]
  -- One option makes the place nullable, and those within it do nothing more.
  obtain ⟨count, hcount⟩ : ∃ count, layers.count .option = count + 1 :=
    Nat.exists_eq_succ_of_ne_zero (List.count_pos_iff.mpr hlayers).ne'
  refine ⟨?_, fun d => ⟨?_, ?_, ?_⟩⟩
  · intro outer inner _
    rw [← habsent, Datum.view_wrap, Datum.view]
    cases outer.count .option with
    | zero => exact scope.check_null label _ false
    | succ depth => rw [scope.check_just_iterate label hne, scope.check_null]
  · rw [Datum.view_wrap, hcount, scope.check_just_iterate label hne, Datum.view,
      scope.check_just false label hne]
  · intro hzero
    rw [Datum.view, scope.check_just false label hne]
    exact scope.check_of_not_zero label _ hzero true false
  · intro s hshape hkind hzero
    have hlevel : (Station.scalar s).LevelForm i.lexicon (tokens text) := by
      rcases hform with rfl | hform
      · exact Station.levelForm_nil
      · rw [hshape] at hform
        exact WellFormed.scalar_iff.mp hform
    refine ⟨?_, _, ScalarConstraint.compile_eq_ok_iff.mpr ⟨hlevel, rfl⟩, fun r hnow => ⟨?_, ?_⟩⟩
    · rw [Constraint.check_ofText_zero hshape hkind hzero, habsent]
    · rw [Datum.view, scope.check_just false label hne]
      exact Constraint.check_ofText_some hshape hkind hnow label
    · exact fun v hv => Interpreter.code_builtin_ne hv

/-- Two options with a box between them: a null is missing in either of them, and an empty
text is too short and odd. -/
theorem Inspector.option_layers_collapse_text :
    let i : Inspector := { rules := ⟨⟨[("odd", fun label _ => .ok (some (label ++ " is odd")))]⟩⟩ }
    let layers : List Layer := [.option, .boxed, .option]
    let scope : Scope := ⟨.empty, .all, 64, ⟨0⟩⟩
    FieldType.text.shape.kind ≠ .optional ∧ FieldType.text.shape.kind ≠ .inert ∧
    .option ∈ layers ∧ Flat (tokens "req|min:2|odd") ∧
    ∃ c, Constraint.ofAnnotation i.lexicon (FieldType.text.wrap layers).shape "req|min:2|odd" =
        .ok c ∧
      scope.check c false "nick" (Datum.none.wrap [.option, .boxed]).view {} =
        .ok () ⟨0, [.required "nick"]⟩ ∧
      scope.check c false "nick" ((Datum.text "").wrap layers).view {} = .ok () ⟨0, [
        ⟨"nick", "nick must be at least 2 characters", "min"⟩,
        ⟨"nick", "nick is odd", "odd"⟩]⟩ := by
  intro i layers scope
  have htokens : tokens "req|min:2|odd" =
      [⟨"req", none⟩, ⟨"min", some "2"⟩, ⟨"odd", none⟩] := by decide +kernel
  have hflat : Flat (tokens "req|min:2|odd") := by
    rw [htokens]
    unfold Flat
    decide +kernel
  obtain ⟨c, hc⟩ : ∃ c, Constraint.ofAnnotation i.lexicon (FieldType.text.wrap layers).shape
      "req|min:2|odd" = .ok c := (isSome_toOption _).mp (by cbv)
  have hoptional : FieldType.text.shape.kind ≠ .optional := by decide
  have hinert : FieldType.text.shape.kind ≠ .inert := by decide
  have hlayers : .option ∈ layers := by decide
  obtain ⟨-, hcheck⟩ := i.option_layers_collapse hoptional hinert hlayers (.inl hflat)
  obtain ⟨hnull, hdata⟩ := (hcheck c hc).2 scope "nick"
  obtain ⟨hone, -, hzero⟩ := hdata (.text "")
  obtain ⟨-, target, htarget, hlevel⟩ := hzero .text rfl rfl rfl
  obtain ⟨-, rfl⟩ := ScalarConstraint.compile_eq_ok_iff.mp htarget
  obtain ⟨hmeasured, -⟩ := hlevel ⟨.empty, 64, ⟨0⟩⟩ rfl
  refine ⟨hoptional, hinert, hlayers, hflat, c, hc, ?_, ?_⟩
  · rw [hnull [.option, .boxed] [] rfl, htokens]
    cbv
  · rw [hone, hmeasured, htokens]
    cbv

end RecordValidation
