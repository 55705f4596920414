import RecordValidation.Proofs.Codes
import RecordValidation.Proofs.Layers

/-!
The start of 1970 as the zero of times. A time counts as absent by the whole seconds that
have passed since then, with the fraction dropped. So the times that a plain field takes for
absent are those at or before the start of 1970, and also those within its first second.
-/

namespace RecordValidation

open Annotation

namespace Instant

/-- No whole second has passed until the first one is over. -/
theorem seconds_nonpos_iff (t : Instant) : t.seconds ≤ 0 ↔ t.nanos < nanosPerSecond := by
  have hseconds : t.seconds = t.nanos / 1000000000 :=
    Int.fdiv_eq_ediv_of_nonneg t.nanos (by decide)
  rw [hseconds, nanosPerSecond]
  omega

end Instant

theorem Value.isZero_time_iff (t : Instant) :
    (Value.time t).isZero = true ↔ t.nanos < Instant.nanosPerSecond := by
  rw [← t.seconds_nonpos_iff]
  exact decide_eq_true_iff

/-- Bounds, patterns and members have codes of their own. -/
theorem Segment.code_ne_required {β α : Type} {s : Segment β α} {g : Gauge β α} {label : String}
    {v : Violation} (h : v ∈ s.failures g label) : v.code ≠ Violation.requiredCode := by
  obtain ⟨b, hb, hcode, -⟩ := exists_fails_of_mem_failures h
  intro hrequired
  have hown : Builtin.required.code? = some v.code := congrArg some hrequired.symm
  exact hb (Builtin.eq_of_code? hcode hown)

namespace Constraint

variable {lex : Lexicon} {type : FieldType} {text : String} {c : Constraint}

/-- An annotation for a time is compiled to one level, the rules of the time. Without any
rules there is nothing that they could report. -/
theorem check_time (hshape : type.shape = .scalar .time)
    (hc : ofAnnotation lex type.shape text = .ok c) :
    ∃ seg, Segment.compile .time lex (tokens text) = .ok seg ∧
      seg.required = (tokens text).any (·.is .required) ∧
      ∀ (scope : Scope) (label : String) (t : Instant),
        scope.check c false label (.time t) =
          if (Value.time t).isZero then scope.reportAbsent seg.required label
          else scope.checkSegment seg (.time (t.ageAt scope.now)) label (.time t) := by
  obtain ⟨hform, rfl⟩ := ofAnnotation_eq_ok_iff.mp hc
  rw [hshape] at hform
  have hlevel : (Station.scalar .time).LevelForm lex (tokens text) := by
    rcases hform with rfl | hform
    · exact Station.levelForm_nil
    · exact WellFormed.scalar_iff.mp hform
  refine ⟨_, (Segment.compile_eq_ok_iff Dialect.time_speaks).mpr ⟨hlevel, rfl⟩, rfl,
    fun scope label t => ?_⟩
  rw [hshape, ofText]
  split
  · next hempty =>
    subst hempty
    rw [scope.check_unchecked]
    split <;> rfl
  · rw [ofTokens, scope.check_scalar false label (s := .time) rfl,
      Value.present?_of_kind (s := .time) rfl]
    cases (Value.time t).isZero <;> rfl

/-- A plain field takes a time for absent if it is before the end of the first second of
1970. Then its only report is that it is required, if it is. From then on a time is measured
by the bounds for its age and by the custom rules, and is not reported to be required. -/
theorem time_absent_through_first_second (hshape : type.shape = .scalar .time)
    (hc : ofAnnotation lex type.shape text = .ok c) :
    ∃ seg, Segment.compile .time lex (tokens text) = .ok seg ∧
      ∀ (scope : Scope) (label : String) (t : Instant),
        (t.nanos < Instant.nanosPerSecond → scope.check c false label (.time t) =
          scope.reportAbsent ((tokens text).any (·.is .required)) label) ∧
        (Instant.nanosPerSecond ≤ t.nanos → scope.check c false label (.time t) = (do
            scope.reportAll (seg.failures (.time (t.ageAt scope.now)) label)
            scope.applyCustom label (.time t) seg.custom) ∧
          ∀ v ∈ seg.failures (.time (t.ageAt scope.now)) label,
            v.code ≠ Violation.requiredCode) := by
  obtain ⟨seg, hseg, hrequired, hcheck⟩ := check_time hshape hc
  refine ⟨seg, hseg, fun scope label t => ⟨fun hearly => ?_, fun hlate => ⟨?_, fun v hv => ?_⟩⟩⟩
  · rw [hcheck, if_pos ((Value.isZero_time_iff t).mpr hearly), hrequired]
  · rw [hcheck, if_neg fun hzero => hlate.not_gt ((Value.isZero_time_iff t).mp hzero)]
    rfl
  · exact Segment.code_ne_required hv

/-- Of two times that are too old, the one at half a second past the start of 1970 is absent,
and the one at a full second is measured. -/
theorem time_absent_through_first_second_halfway :
    let scope : Scope := ⟨.empty, .all, 64, .ofSeconds 7200 0⟩
    FieldType.time.shape = .scalar .time ∧
    ∃ c, ofAnnotation ⟨.empty, {}⟩ FieldType.time.shape "req|max:3600" = .ok c ∧
      scope.check c false "at" (.time (.ofSeconds 0 500000000)) {} =
        .ok () ⟨0, [.required "at"]⟩ ∧
      scope.check c false "at" (.time (.ofSeconds 1 0)) {} =
        .ok () ⟨0, [⟨"at", "at can not have age greater than 3600 seconds", "max"⟩]⟩ := by
  intro scope
  obtain ⟨c, hc⟩ : ∃ c, ofAnnotation ⟨.empty, {}⟩ FieldType.time.shape "req|max:3600" = .ok c :=
    (isSome_toOption _).mp (by cbv)
  obtain ⟨seg, hseg, hcheck⟩ := time_absent_through_first_second rfl hc
  obtain ⟨-, rfl⟩ := (Segment.compile_eq_ok_iff Dialect.time_speaks).mp hseg
  refine ⟨rfl, c, hc, ?_, ?_⟩
  · rw [(hcheck scope "at" (.ofSeconds 0 500000000)).1 (by decide)]
    cbv
  · rw [((hcheck scope "at" (.ofSeconds 1 0)).2 (by decide)).1]
    cbv

/-- The start of 1970 itself is not where times begin to be present: half a second later a
time is still taken for absent. -/
theorem later_times_taken_for_absent :
    ¬∀ (lex : Lexicon) (type : FieldType) (text : String) (c : Constraint),
      type.shape = .scalar .time → ofAnnotation lex type.shape text = .ok c →
      ∃ seg, Segment.compile .time lex (tokens text) = .ok seg ∧
        ∀ (scope : Scope) (label : String) (t : Instant),
          (t.nanos ≤ 0 → scope.check c false label (.time t) =
            scope.reportAbsent ((tokens text).any (·.is .required)) label) ∧
          (0 < t.nanos → scope.check c false label (.time t) = (do
              scope.reportAll (seg.failures (.time (t.ageAt scope.now)) label)
              scope.applyCustom label (.time t) seg.custom) ∧
            ∀ v ∈ seg.failures (.time (t.ageAt scope.now)) label,
              v.code ≠ Violation.requiredCode) := by
  intro h
  have hc : ofAnnotation ⟨.empty, {}⟩ FieldType.time.shape "req" =
      .ok (.scalar (.time { required := true })) := by cbv
  obtain ⟨seg, hseg, hcheck⟩ := h _ _ _ _ rfl hc
  obtain ⟨-, rfl⟩ := (Segment.compile_eq_ok_iff Dialect.time_speaks).mp hseg
  obtain ⟨hcourse, -⟩ :=
    (hcheck ⟨.empty, .all, 64, .ofSeconds 7200 0⟩ "at" (.ofSeconds 0 500000000)).2 (by decide)
  have hfound := congrFun hcourse {}
  cbv at hfound
  cases hfound

end Constraint

end RecordValidation
