import RecordValidation.Proofs.Compilation

/-!
Pointers, the optional scalars whose rules tell the optional from what it holds. Compiling
takes all optional layers off at once, but a check takes off one of them only. What this
layer holds is checked as it would be without a dive: within a further layer a zero is
present, and a null is absent by the rules after the dive.
-/

namespace RecordValidation

open Annotation

theorem Shape.core_optional_iterate (layers : Nat) (shape : Shape) :
    (Shape.optional^[layers] shape).core = shape.core := by
  induction layers with
  | zero => rfl
  | succ layers ih => rw [Function.iterate_succ_apply', core_optional, ih]

namespace Value

/-- In layers of its own, whether a value is there does not depend on its place. -/
theorem present?_just_iterate (layers : Nat) (nullable : Bool) (value : Value) :
    (Value.just^[layers + 1] value).present? nullable = value.present? true := by
  induction layers generalizing nullable with
  | zero => rfl
  | succ layers ih => rw [Function.iterate_succ_apply', present?, ih]

theorem present?_null_iterate (depth : Nat) (nullable : Bool) :
    (Value.just^[depth] .null).present? nullable = none := by
  cases depth with
  | zero => rfl
  | succ depth => rw [present?_just_iterate, present?]

end Value

/-- A value in optional layers is there, but for a zero that has none around it. -/
theorem Value.present?_iterate_of_kind {s : Scalar} {value : Value} (hkind : value.kind = s.kind)
    (layers : Nat) :
    (Value.just^[layers] value).present? false =
      if layers = 0 then value.present? false else some value := by
  cases layers with
  | zero => rfl
  | succ layers =>
    rw [present?_just_iterate, present?_of_kind hkind, if_neg (Nat.succ_ne_zero layers)]
    rfl

/-- Tokens with a dive are compiled for an optional scalar as those before the dive for a
pointer and those after it for the scalar. -/
theorem Constraint.compile_pointer_eq_ok {lex : Lexicon} {s : Scalar} {layers : Nat}
    {tokens head tail : List Token} {c : Constraint}
    (hsplit : splitDive tokens = (head, some tail))
    (h : compile lex (Shape.optional^[layers + 1] (.scalar s)) tokens = .ok c) :
    Segment.compile .pointer lex head = .ok (.ofTokens .pointer lex head) ∧
      compile lex (.scalar s) tail = .ok (.scalar (.ofTokens lex tail s)) ∧
      c = .pointer (.ofTokens .pointer lex head) (.ofTokens lex tail s) := by
  have hcore : (Shape.optional^[layers] (.scalar s)).core = .scalar s :=
    Shape.core_optional_iterate layers (.scalar s)
  obtain ⟨hform, rfl⟩ := (compile_eq_ok_iff _).mp h
  rcases flat_or_eq_append tokens with hflat | ⟨head', tail', hflat, rfl⟩
  · rw [splitDive_of_flat hflat] at hsplit
    cases hsplit
  rw [splitDive_append hflat] at hsplit
  cases hsplit
  rw [Function.iterate_succ_apply'] at hform ⊢
  obtain ⟨hhead, htail⟩ := (WellFormed.pointer_append_iff hcore hflat).mp hform
  refine ⟨?_, ?_, ofTokens_pointer hcore hflat⟩
  · exact (Segment.compile_eq_ok_iff Dialect.pointer_speaks).mpr ⟨hhead, rfl⟩
  · exact (compile_eq_ok_iff (.scalar s)).mpr ⟨WellFormed.scalar_iff.mpr htail, rfl⟩

namespace Scope

variable (scope : Scope) (nullable : Bool) (label : String)

theorem check_unchecked (value : Value) :
    scope.check .unchecked nullable label value = pure () := by
  cases value <;> simp only [check, checkPlain]

/-- An optional layer makes the place nullable, but for pointers. -/
theorem check_just {c : Constraint} (hne : ∀ head target, c ≠ .pointer head target)
    (inner : Value) :
    scope.check c nullable label (.just inner) = scope.check c true label inner := by
  cases c with
  | pointer head target => exact absurd rfl (hne head target)
  | unchecked => rw [check_unchecked, check_unchecked]
  | scalar target => simp only [check]
  | sequence head element => simp only [check]
  | record head => simp only [check]

theorem check_pointer_null (head : Segment Empty Empty) (target : ScalarConstraint) :
    scope.check (.pointer head target) nullable label .null =
      scope.reportAbsent head.required label := by
  simp only [check, checkPlain, checkPointer]

theorem check_pointer_just (head : Segment Empty Empty) (target : ScalarConstraint)
    (pointee : Value) :
    scope.check (.pointer head target) nullable label (.just pointee) = (do
      scope.applyCustom label (.just pointee) head.custom
      scope.checkIfPresent label target (pointee.present? false)) := by
  simp only [check, checkPointer]

/-- The rules of a scalar at a value of its kind. -/
theorem check_scalar {s : Scalar} {value : Value} (hkind : value.kind = s.kind)
    (target : ScalarConstraint) :
    scope.check (.scalar target) nullable label value =
      scope.checkIfPresent label target (value.present? nullable) := by
  cases value with
  | just inner => cases s <;> cases hkind
  | _ => simp only [check, checkPlain]

/-- Only whether a value is present is asked of it before its kind. -/
theorem check_scalar_eq_ifPresent (target : ScalarConstraint) (nullable : Bool) :
    (value : Value) → scope.check (.scalar target) nullable label value =
      scope.checkIfPresent label target (value.present? nullable)
  | .just inner => by
    simp only [check]
    exact check_scalar_eq_ifPresent target true inner
  | .null | .inert | .text _ | .integer _ | .float _ | .time _ | .sequence _ | .record _ _ => by
    simp only [check, checkPlain]

/-- The zero of a scalar is absent where there is no optional layer around it. -/
theorem check_scalar_zero {s : Scalar} {value : Value} (hkind : value.kind = s.kind)
    (hzero : value.isZero = true) (target : ScalarConstraint) :
    scope.check (.scalar target) false label value =
      scope.reportAbsent target.required label := by
  rw [check_scalar scope false label hkind, Value.present?_of_kind hkind, hzero]
  rfl

end Scope

/-- A pointer sees through one optional layer and no further. A null in the outermost layer
is absent by the rules before the dive. In all other layers the custom rules before the dive
are applied first; then a null is absent by the rules after the dive, and a value is checked
by these as if there were no dive. Its zero is absent if there is one layer only. -/
theorem Constraint.pointer_sees_through_one_layer {lex : Lexicon} {s : Scalar} {layers : Nat}
    {tokens head tail : List Token} {c : Constraint}
    (hsplit : splitDive tokens = (head, some tail))
    (h : compile lex (Shape.optional^[layers + 1] (.scalar s)) tokens = .ok c) :
    ∃ (rules : Segment Empty Empty) (target : ScalarConstraint),
      Segment.compile .pointer lex head = .ok rules ∧
      compile lex (.scalar s) tail = .ok (.scalar target) ∧
      ∀ (scope : Scope) (nullable : Bool) (label : String),
        scope.check c nullable label .null =
          scope.reportAbsent (head.any (·.is .required)) label ∧
        (∀ depth < layers,
          scope.check c nullable label (Value.just^[depth + 1] .null) = (do
            scope.applyCustom label (Value.just^[depth + 1] .null) rules.custom
            scope.reportAbsent (tail.any (·.is .required)) label)) ∧
        ∀ value : Value, value.kind = s.kind →
          (scope.check c nullable label (Value.just^[layers + 1] value) = (do
            scope.applyCustom label (Value.just^[layers + 1] value) rules.custom
            if layers = 0 then scope.check (.scalar target) false label value
            else scope.checkScalar label target value)) ∧
          (value.isZero = true → scope.check (.scalar target) false label value =
            scope.reportAbsent (tail.any (·.is .required)) label) := by
  obtain ⟨hhead, htail, rfl⟩ := compile_pointer_eq_ok hsplit h
  have hrequired : (ScalarConstraint.ofTokens lex tail s).required =
      tail.any (·.is .required) := Terrain.required_ofTokens s
  refine ⟨_, _, hhead, htail, fun scope nullable label => ⟨?_, ?_, ?_⟩⟩
  · exact scope.check_pointer_null nullable label _ _
  · intro depth _
    rw [Function.iterate_succ_apply', scope.check_pointer_just, Value.present?_null_iterate,
      ← hrequired]
    rfl
  · intro value hkind
    constructor
    · rw [Function.iterate_succ_apply', scope.check_pointer_just,
        Value.present?_iterate_of_kind hkind, scope.check_scalar false label hkind]
      by_cases hlayers : layers = 0
      · rw [if_pos hlayers, if_pos hlayers]
      · rw [if_neg hlayers, if_neg hlayers]
        rfl
    · intro hzero
      rw [scope.check_scalar_zero label hkind hzero, hrequired]

namespace Constraint

/-- A lexicon with one rule, which marks whatever it is given. -/
def markLexicon : Lexicon where
  rules := ⟨Roster.empty.insert "mark" fun label _ => .ok (some (label ++ " is marked"))⟩
  settings := {}

/-- In two layers an empty text is present, and a null in the inner layer is marked before it
is found to be missing. -/
theorem pointer_sees_through_one_layer_text :
    let scope : Scope := ⟨.empty, .all, 64, ⟨0⟩⟩
    let marked : Violation := ⟨"note", "note is marked", "mark"⟩
    ∃ c, compile markLexicon (.optional (.optional (.scalar .text))) (tokens "mark|dive|req") =
        .ok c ∧
      scope.check c false "note" .null {} = .ok () ⟨0, []⟩ ∧
      scope.check c false "note" (.just .null) {} = .ok () ⟨0, [marked, .required "note"]⟩ ∧
      scope.check c false "note" (.just (.just (.text ""))) {} = .ok () ⟨0, [marked]⟩ := by
  intro scope marked
  have hsplit : splitDive (tokens "mark|dive|req") =
      ([⟨"mark", none⟩], some [⟨"req", none⟩]) := by cbv
  obtain ⟨c, hc⟩ : ∃ c, compile markLexicon (Shape.optional^[2] (.scalar .text))
      (tokens "mark|dive|req") = .ok c := (isSome_toOption _).mp (by cbv)
  obtain ⟨rules, target, hrules, htarget, hcheck⟩ := pointer_sees_through_one_layer hsplit hc
  obtain ⟨hnull, hinner, hvalue⟩ := hcheck scope false "note"
  cases hrules
  cases htarget
  refine ⟨c, hc, ?_, ?_, ?_⟩
  · exact congrFun hnull {}
  · exact (congrFun (hinner 0 Nat.one_pos) {}).trans (by cbv)
  · exact (congrFun (hvalue (.text "") rfl).1 {}).trans (by cbv)

/-- Where there is a further layer, a pointer does not see through it: what it holds is not
checked as a plain value. -/
theorem inner_layers_not_seen_through :
    ¬∀ (lex : Lexicon) (s : Scalar) (layers : Nat) (tokens head tail : List Token)
      (c : Constraint), splitDive tokens = (head, some tail) →
      compile lex (Shape.optional^[layers + 1] (.scalar s)) tokens = .ok c →
      ∃ (rules : Segment Empty Empty) (target : Constraint),
        Segment.compile .pointer lex head = .ok rules ∧
        compile lex (.scalar s) tail = .ok target ∧
        ∀ (scope : Scope) (nullable : Bool) (label : String),
          (∀ depth ≤ layers, scope.check c nullable label (Value.just^[depth] .null) =
            scope.reportAbsent (head.any (·.is .required)) label) ∧
          ∀ value : Value, value.kind = s.kind →
            scope.check c nullable label (Value.just^[layers + 1] value) = (do
              scope.applyCustom label (Value.just^[layers + 1] value) rules.custom
              scope.check target false label value) := by
  intro h
  have hc : compile markLexicon (Shape.optional^[2] (.scalar .text)) (tokens "dive|req") =
      .ok (.pointer {} (.text { required := true })) := by cbv
  obtain ⟨rules, target, hrules, htarget, hcheck⟩ :=
    h markLexicon .text 1 (tokens "dive|req") [] [⟨"req", none⟩] _ (by cbv) hc
  cases hrules
  cases htarget
  obtain ⟨-, hvalue⟩ := hcheck ⟨.empty, .all, 64, ⟨0⟩⟩ false "note"
  have hcourse := congrFun (hvalue (.text "") rfl) {}
  cbv at hcourse
  cases hcourse

end Constraint

end RecordValidation
