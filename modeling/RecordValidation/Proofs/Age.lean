import RecordValidation.Proofs.Epoch
import RecordValidation.Proofs.TokenOrder

/-!
Ages. The bounds of a time are about its age, the whole seconds from the time to the clock.
The fraction of a second is dropped, which rounds towards zero: downwards for times in the
past, but upwards for those in the future. So within a second from now a time has the age
zero on both sides of the clock, and it takes a full second in the future to be of negative
age.
-/

namespace RecordValidation

open Annotation

namespace Instant

instance : LT Instant := ⟨fun t t' => t.nanos < t'.nanos⟩

instance : LE Instant := ⟨fun t t' => t.nanos ≤ t'.nanos⟩

instance (t t' : Instant) : Decidable (t < t') := inferInstanceAs (Decidable (t.nanos < t'.nanos))

instance (t t' : Instant) : Decidable (t ≤ t') := inferInstanceAs (Decidable (t.nanos ≤ t'.nanos))

theorem lt_iff {t t' : Instant} : t < t' ↔ t.nanos < t'.nanos := Iff.rfl

theorem le_iff {t t' : Instant} : t ≤ t' ↔ t.nanos ≤ t'.nanos := Iff.rfl

/-- The instant that is later by some seconds, or earlier if they are negative. -/
def shift (t : Instant) (seconds : Int) : Instant := ⟨t.nanos + seconds * nanosPerSecond⟩

theorem nanos_shift (t : Instant) (seconds : Int) :
    (t.shift seconds).nanos = t.nanos + seconds * 1000000000 := rfl

/-- To drop a fraction of a second is to round down the distance from zero. -/
theorem tdiv_nanosPerSecond (d : Int) :
    Int.tdiv d nanosPerSecond = if 0 ≤ d then d / 1000000000 else -(-d / 1000000000) := by
  -- The arithmetic below knows division that rounds down only, which is truncation from zero up.
  split
  · next h => exact Int.tdiv_eq_ediv_of_nonneg h
  · next h =>
    have hneg : Int.tdiv (-d) nanosPerSecond = -d / 1000000000 :=
      Int.tdiv_eq_ediv_of_nonneg (by omega)
    rw [Int.neg_tdiv] at hneg
    omega

/-- Bounds above zero are about times in the past, where fractions are rounded down. Other
bounds are passed up to a full second later. -/
theorem ageAt_lt_iff (t now : Instant) (m : Int) :
    t.ageAt now < m ↔ if 0 < m then now.shift (-m) < t else now.shift (1 - m) ≤ t := by
  rw [ageAt, tdiv_nanosPerSecond, lt_iff, le_iff, nanos_shift, nanos_shift]
  by_cases hm : 0 < m
  · rw [if_pos hm]
    split <;> omega
  · rw [if_neg hm]
    split <;> omega

theorem lt_ageAt_iff (t now : Instant) (m : Int) :
    m < t.ageAt now ↔ if 0 ≤ m then t ≤ now.shift (-(m + 1)) else t < now.shift (-m) := by
  rw [ageAt, tdiv_nanosPerSecond, lt_iff, le_iff, nanos_shift, nanos_shift]
  by_cases hm : 0 ≤ m
  · rw [if_pos hm]
    split <;> omega
  · rw [if_neg hm]
    split <;> omega

end Instant

/-- In a level of the right form, a rule is read from its only token. -/
theorem ruleArgument?_eq_some_iff {γ : Type} {read : String → Option γ} {b : Builtin}
    {station : Station} {lex : Lexicon} {ts : List Token} (hform : station.LevelForm lex ts)
    {a : γ} :
    ruleArgument? read b ts = some a ↔
      ∃ arg, ⟨b.name, some arg⟩ ∈ ts ∧ arg ≠ "" ∧ read arg = some a := by
  constructor
  · intro h
    obtain ⟨arg, h, hread⟩ := Option.bind_eq_some_iff.mp h
    obtain ⟨⟨name, arg?⟩, hfind, harg⟩ := Option.bind_eq_some_iff.mp h
    obtain ⟨rfl, hne⟩ := Option.filter_eq_some_iff.mp harg
    have hb := List.find?_some hfind
    obtain rfl : name = b.name := Token.is_iff.mp hb
    exact ⟨arg, List.mem_of_find?_eq_some hfind, by simpa using hne, hread⟩
  · rintro ⟨arg, hmem, hne, hread⟩
    have hfind : ts.find? (·.is b) = some ⟨b.name, some arg⟩ :=
      find?_eq_some_of_countP_le_one (hform.once b) hmem (Token.is_iff.mpr rfl)
    have harg : Token.argument? ⟨b.name, some arg⟩ = some arg :=
      Option.filter_eq_some_iff.mpr ⟨rfl, by simpa using hne⟩
    rw [ruleArgument?, hfind, Option.bind_some, harg, Option.bind_some, hread]

/-- Whether the tokens of a level set a bound that is a whole number. -/
def Annotation.Sets (ts : List Token) (b : Builtin) (bound : Int) : Prop :=
  ∃ arg, ⟨b.name, some arg⟩ ∈ ts ∧ Numeral.integer? arg = .ok bound

theorem Annotation.sets_iff {station : Station} {lex : Lexicon} {ts : List Token}
    (hform : station.LevelForm lex ts) {b : Builtin} {bound : Int} :
    Sets ts b bound ↔
      ruleArgument? (fun arg => (Numeral.integer? arg).toOption) b ts = some bound := by
  rw [ruleArgument?_eq_some_iff hform]
  constructor
  · rintro ⟨arg, hmem, hread⟩
    refine ⟨arg, hmem, ?_, by rw [hread]; rfl⟩
    rintro rfl
    cases hread
  · rintro ⟨arg, hmem, -, hread⟩
    refine ⟨arg, hmem, ?_⟩
    cases h : Numeral.integer? arg with
    | ok n =>
      rw [h] at hread
      exact congrArg _ (Option.some.inj hread)
    | error e =>
      rw [h] at hread
      cases hread

/-- The rules that go with the scalar of a field: those after the dive, if there is one. -/
def Annotation.scalarRules (ts : List Token) : List Token := (splitDive ts).2.getD ts

namespace Violation

/-- The report that a time is longer ago than it may be. -/
def tooOld (label : String) (bound : Int) : Violation :=
  Segment.violation label ("can not have age greater than " ++ toString bound ++ " seconds")
    greatestCode

/-- The report that a time is not as long ago as it must be. -/
def tooYoung (label : String) (bound : Int) : Violation :=
  Segment.violation label ("must have age at least " ++ toString bound ++ " seconds") leastCode

end Violation

namespace Constraint

/-- The rules for a scalar, of a constraint that has some. -/
def target? : Constraint → Option ScalarConstraint
  | .scalar target | .pointer _ target => some target
  | _ => none

/-- The custom rules that are applied to the optional that a pointer is. -/
def headRules : Constraint → List NamedRule
  | .pointer head _ => head.custom
  | _ => []

/-- The value that is measured by the rules for a scalar, if it is present. A pointer takes
off one optional layer, and what the layer holds is in no nullable place then. -/
def measured? (nullable : Bool) : Constraint → Value → Option Value
  | .pointer _ _, .just pointee => pointee.present? false
  | .pointer _ _, value => value.present? false
  | _, value => value.present? nullable

end Constraint

namespace Scope

variable (scope : Scope) (label : String)

/-- A value that is present is measured after the rules of its pointer are applied. -/
theorem check_of_measured? {c : Constraint} {target : ScalarConstraint}
    (htarget : c.target? = some target) {nullable : Bool} {value measured : Value}
    (h : c.measured? nullable value = some measured) :
    scope.check c nullable label value = (do
      scope.applyCustom label value c.headRules
      scope.checkScalar label target measured) := by
  cases c with
  | scalar target =>
    cases htarget
    have hpresent : value.present? nullable = some measured := by
      cases value <;> exact h
    rw [check_scalar_eq_ifPresent, hpresent]
    rfl
  | pointer head target =>
    cases htarget
    cases value with
    | null => cases h
    | just pointee =>
      rw [check_pointer_just, show pointee.present? false = some measured from h]
      rfl
    | _ =>
      simp only [check, checkPlain, checkPointer]
      rw [show Value.present? false _ = some measured from h]
      rfl
  | _ => cases htarget

end Scope

namespace Constraint

variable {lex : Lexicon} {shape : Shape} {ts : List Token} {s : Scalar}

/-- However many optional layers are around a scalar, one level of its annotation has the
rules for it. -/
theorem target?_ofTokens (hcore : shape.core = .scalar s) (hform : WellFormed lex shape ts) :
    (Station.scalar s).LevelForm lex (scalarRules ts) ∧
      (ofTokens lex shape ts).target? = some (.ofTokens lex (scalarRules ts) s) := by
  induction shape with
  | scalar s' =>
    cases hcore
    have hlevel := WellFormed.scalar_iff.mp hform
    have hrules : scalarRules ts = ts := by
      rw [scalarRules, splitDive_of_flat hlevel.flat]
      rfl
    rw [hrules]
    exact ⟨hlevel, rfl⟩
  | optional inner ih =>
    rw [Shape.core_optional] at hcore
    rcases plain_or_pointer inner ts with hplain | ⟨s', head, tail, hcore', hflat, rfl⟩
    · rw [ofTokens_optional_of_plain hplain]
      exact ih hcore ((WellFormed.optional_iff_of_plain hplain).mp hform)
    · obtain ⟨-, htail⟩ := (WellFormed.pointer_append_iff hcore hflat).mp hform
      have hrules : scalarRules (head ++ Token.dive :: tail) = tail := by
        rw [scalarRules, splitDive_append hflat]
        rfl
      rw [hrules, ofTokens_pointer hcore hflat]
      exact ⟨htail, rfl⟩
  | _ => cases hcore

end Constraint

theorem mem_toList_map_filter {β γ : Type} {p : β → Bool} {f : β → γ} {bound? : Option β} {c : γ} :
    c ∈ ((bound?.filter p).map f).toList ↔
      ∃ bound, bound? = some bound ∧ p bound = true ∧ c = f bound := by
  simp only [Option.mem_toList, Option.map_eq_some_iff, Option.filter_eq_some_iff, and_assoc,
    eq_comm]

/-- The bounds for times are all that a time can fail. -/
theorem Segment.mem_failures_time {lex : Lexicon} {ts : List Token}
    (hform : (Station.scalar .time).LevelForm lex ts) {age : Int} {label : String}
    {v : Violation} :
    v ∈ (ofTokens .time lex ts).failures (.time age) label ↔
      (∃ m, Sets ts .greatest m ∧ m < age ∧ v = .tooOld label m) ∨
      ∃ m, Sets ts .least m ∧ age < m ∧ v = .tooYoung label m := by
  have hpattern : ruleArgument? Dialect.time.pattern? .pattern ts = none :=
    ruleArgument?_of_unread (fun _ => rfl) .pattern
  have hmembers : ruleArgument? Dialect.time.members? .member ts = none :=
    ruleArgument?_of_unread (fun _ => rfl) .member
  have hbound : Dialect.time.bound? = fun arg => (Numeral.integer? arg).toOption :=
    funext Dialect.bound?_time
  simp only [failures, ofTokens, hpattern, hmembers, hbound, sets_iff hform, List.mem_append,
    mem_toList_map_filter, Option.filter_none, Option.map_none, Option.toList_none,
    List.not_mem_nil, or_false, Gauge.time, decide_eq_true_eq]
  rfl

namespace Constraint

variable {lex : Lexicon} {shape : Shape} {ts : List Token} {c : Constraint}

/-- How ages are rounded. From zero up a time fails the bound `max` when its seconds and one
more have passed, and above zero it fails `min` when its seconds have not passed. The other
bounds lie in the future, where the dropped fraction counts for the time: below zero it fails
`max` if it is nearer than the seconds, and up to zero it fails `min` only if it is a whole
second farther away than they are. -/
theorem ages_rounded_towards_zero (hcore : shape.core = .scalar .time)
    (hc : compile lex shape ts = .ok c) :
    ∃ seg, Segment.compile .time lex (scalarRules ts) = .ok seg ∧
      ∀ (scope : Scope) (nullable : Bool) (label : String) (value : Value) (t : Instant),
        c.measured? nullable value = some (.time t) →
        ∃ found : List Violation,
          scope.check c nullable label value = (do
            scope.applyCustom label value c.headRules
            scope.reportAll found
            scope.applyCustom label (.time t) seg.custom) ∧
          ∀ v, v ∈ found ↔
            (∃ m, Sets (scalarRules ts) .greatest m ∧
              (if 0 ≤ m then t ≤ scope.now.shift (-(m + 1)) else t < scope.now.shift (-m)) ∧
              v = .tooOld label m) ∨
            ∃ m, Sets (scalarRules ts) .least m ∧
              (if 0 < m then scope.now.shift (-m) < t else scope.now.shift (1 - m) ≤ t) ∧
              v = .tooYoung label m := by
  obtain ⟨hform, rfl⟩ := (compile_eq_ok_iff shape).mp hc
  obtain ⟨hlevel, htarget⟩ := target?_ofTokens hcore hform
  refine ⟨_, (Segment.compile_eq_ok_iff Dialect.time_speaks).mpr ⟨hlevel, rfl⟩, ?_⟩
  intro scope nullable label value t hmeasured
  refine ⟨_, scope.check_of_measured? label htarget hmeasured, fun v => ?_⟩
  simp only [Segment.mem_failures_time hlevel, t.lt_ageAt_iff, t.ageAt_lt_iff]

/-- Half a second from now a time is too old for an age of at most minus one second, and not
too young for an age of zero. -/
theorem ages_rounded_towards_zero_half_second :
    let shape : Shape := .optional (.scalar .time)
    let ts : List Token := [.dive, ⟨"max", some "-1"⟩, ⟨"min", some "0"⟩]
    let scope : Scope := ⟨.empty, .all, 64, .ofSeconds 100 0⟩
    let t : Instant := .ofSeconds 100 500000000
    shape.core = .scalar .time ∧
    ∃ c, compile ⟨.empty, {}⟩ shape ts = .ok c ∧
      c.measured? false (.just (.time t)) = some (.time t) ∧
      ∃ found, scope.check c false "at" (.just (.time t)) = scope.reportAll found ∧
        .tooOld "at" (-1) ∈ found ∧ .tooYoung "at" 0 ∉ found := by
  intro shape ts scope t
  have hrules : scalarRules ts = [⟨"max", some "-1"⟩, ⟨"min", some "0"⟩] := by decide
  have hc : compile ⟨.empty, {}⟩ shape ts =
      .ok (.pointer {} (.time { greatest := some (-1), least := some 0 })) := by cbv
  obtain ⟨seg, hseg, hcheck⟩ := ages_rounded_towards_zero rfl hc
  obtain ⟨found, hcourse, hfound⟩ := hcheck scope false "at" (.just (.time t)) t (by cbv)
  have hcustom : seg.custom = [] := by
    obtain ⟨-, rfl⟩ := (Segment.compile_eq_ok_iff Dialect.time_speaks).mp hseg
    rw [hrules]
    cbv
  refine ⟨rfl, _, hc, by cbv, found, ?_, ?_, ?_⟩
  · simp only [hcourse, hcustom, headRules, Scope.applyCustom, pure_bind, bind_pure_unit]
  · rw [hfound]
    exact .inl ⟨-1, ⟨"-1", by decide, by decide⟩, by decide, rfl⟩
  · rw [hfound]
    rintro (⟨m, -, -, hm⟩ | ⟨m, ⟨arg, harg, hread⟩, hm, -⟩)
    · have hcode : Violation.leastCode = Violation.greatestCode := congrArg Violation.code hm
      exact absurd hcode (by decide)
    · obtain rfl : arg = "0" := by
        rw [hrules] at harg
        simpa [Builtin.name] using harg
      cases hread
      revert hm
      decide

/-- Not every time that is later than the clock fails the bound zero. -/
theorem future_times_not_too_young :
    ¬∀ (lex : Lexicon) (shape : Shape) (ts : List Token) (c : Constraint),
      shape.core = .scalar .time → compile lex shape ts = .ok c →
      ∃ seg, Segment.compile .time lex (scalarRules ts) = .ok seg ∧
        ∀ (scope : Scope) (nullable : Bool) (label : String) (value : Value) (t : Instant),
          c.measured? nullable value = some (.time t) →
          ∃ found : List Violation,
            scope.check c nullable label value = (do
              scope.applyCustom label value c.headRules
              scope.reportAll found
              scope.applyCustom label (.time t) seg.custom) ∧
            ∀ v, v ∈ found ↔
              (∃ m, Sets (scalarRules ts) .greatest m ∧ t ≤ scope.now.shift (-(m + 1)) ∧
                v = .tooOld label m) ∨
              ∃ m, Sets (scalarRules ts) .least m ∧ scope.now.shift (-m) < t ∧
                v = .tooYoung label m := by
  intro h
  let scope : Scope := ⟨.empty, .first, 64, .ofSeconds 100 0⟩
  let t : Instant := .ofSeconds 100 500000000
  have hc : compile ⟨.empty, {}⟩ (.scalar .time) [⟨"min", some "0"⟩] =
      .ok (.scalar (.time { least := some 0 })) := by cbv
  obtain ⟨seg, -, hcheck⟩ := h _ _ _ _ rfl hc
  obtain ⟨found, hcourse, hfound⟩ := hcheck scope false "at" (.time t) t rfl
  have hmem : .tooYoung "at" 0 ∈ found := by
    rw [hfound]
    exact .inr ⟨0, ⟨"0", by decide, by decide⟩, by decide, rfl⟩
  have hnone : scope.check (.scalar (.time { least := some 0 })) false "at" (.time t) {} =
      .ok () {} := by cbv
  rw [hcourse] at hnone
  cases found with
  | nil => cases hmem
  | cons v rest => cases hnone

end Constraint

end RecordValidation
