import RecordValidation.Proofs.Enrolment

/-!
Leniency: what to do about rules that nobody knows. To leave them out when an annotation is
compiled is to compile, strictly, the annotation without their tokens. The one exception is
made for records, which take no tokens behind a dive, not even such as would be left out.
-/

namespace RecordValidation

open Annotation

namespace Lexicon

/-- The same rules, where those that nobody knows are refused. -/
def strict (lex : Lexicon) : Lexicon :=
  { lex with settings := { lex.settings with unknownRules := .reject } }

/-- The same rules, where those that nobody knows are left out. -/
def lenient (lex : Lexicon) : Lexicon :=
  { lex with settings := { lex.settings with unknownRules := .ignore } }

/-- Whether a token has the name of a rule that is built in or in the book. -/
def knows (lex : Lexicon) (t : Token) : Bool :=
  (Builtin.ofName? t.name).isSome || lex.rules.contains t.name

variable (lex : Lexicon)

theorem knows_dive : lex.knows .dive = true := by
  rw [knows, Token.dive, Builtin.ofName?_name]
  rfl

end Lexicon

/-- Tokens of which none stands behind the dive of a record. -/
def Shape.NothingBehindRecord : Shape → List Token → Prop
  | .record _, ts => ∀ tail, (splitDive ts).2 = some tail → tail = []
  | .sequence element, ts =>
    ∀ tail, (splitDive ts).2 = some tail → element.NothingBehindRecord tail
  | .optional inner, ts => inner.NothingBehindRecord ts
  | .scalar _, _ | .inert, _ => True

namespace Annotation

variable (lex : Lexicon)

/-- Dives are known, so the levels are cut where they were. -/
theorem splitDive_filter (ts : List Token) :
    splitDive (ts.filter lex.knows) =
      ((splitDive ts).1.filter lex.knows, (splitDive ts).2.map (·.filter lex.knows)) := by
  have hkept : ∀ {l : List Token}, Flat l → Flat (l.filter lex.knows) :=
    fun hflat t ht => hflat t (List.mem_of_mem_filter ht)
  rcases flat_or_eq_append ts with hflat | ⟨head, tail, hflat, rfl⟩
  · rw [splitDive_of_flat hflat, splitDive_of_flat (hkept hflat)]
    rfl
  · rw [List.filter_append, List.filter_cons_of_pos lex.knows_dive, splitDive_append hflat,
      splitDive_append (hkept hflat)]
    rfl

theorem any_isDive_filter (ts : List Token) :
    (ts.filter lex.knows).any Token.isDive = ts.any Token.isDive := by
  rw [List.any_filter]
  congr 1
  funext t
  cases hdive : t.isDive with
  | false => rw [Bool.and_false]
  | true => rw [Token.isDive_iff.mp hdive, lex.knows_dive, Bool.and_true]

end Annotation

theorem RuleBook.isSome_bind? (book : RuleBook) (name : String) :
    (book.bind? name).isSome = book.contains name := by
  rw [bind?, Option.isSome_map]
  rfl

namespace Segment

variable {β α : Type} (d : Dialect β α) (lex : Lexicon) (s : Segment β α) {t : Token}

/-- The policy makes no difference to rules that are known. -/
theorem add_lenient_of_knows (h : lex.knows t = true) :
    s.add d lex.lenient t = s.add d lex.strict t := by
  cases hname : Builtin.ofName? t.name with
  | some b => cases b <;> simp only [add, hname]
  | none =>
    have hcontains : (lex.rules.bind? t.name).isSome = true := by
      rwa [Lexicon.knows, hname, Option.isSome_none, Bool.false_or,
        ← RuleBook.isSome_bind?] at h
    obtain ⟨bound, hbound⟩ := Option.isSome_iff_exists.mp hcontains
    have hresolve : resolve lex.lenient t = resolve lex.strict t := by
      simp only [resolve, Lexicon.lenient, Lexicon.strict, hbound]
    simp only [add, hname, hresolve]

/-- Other rules are left out where that is the policy. -/
theorem add_lenient_of_not_knows (h : lex.knows t = false) :
    s.add d lex.lenient t = .ok s := by
  obtain ⟨hbuiltin, hcontains⟩ := Bool.or_eq_false_iff.mp h
  have hname : Builtin.ofName? t.name = none := by
    rwa [Option.isSome_eq_false_iff, Option.isNone_iff_eq_none] at hbuiltin
  have hbind : lex.rules.bind? t.name = none := by
    rwa [← RuleBook.isSome_bind?, Option.isSome_eq_false_iff, Option.isNone_iff_eq_none]
      at hcontains
  have hresolve : resolve lex.lenient t = .ok [] := by
    simp only [resolve, Lexicon.lenient, hbind]
    rfl
  have hcustom : s.custom ++ [] = s.custom := List.append_nil s.custom
  simp only [add, hname, hresolve]
  exact congrArg (fun custom => Except.ok { s with custom }) hcustom

theorem compileFrom_lenient (ts : List Token) :
    compileFrom d lex.lenient s ts = compileFrom d lex.strict s (ts.filter lex.knows) := by
  induction ts generalizing s with
  | nil => rfl
  | cons t rest ih =>
    cases hknows : lex.knows t with
    | true =>
      rw [List.filter_cons_of_pos hknows, compileFrom, compileFrom,
        add_lenient_of_knows d lex s hknows]
      cases s.add d lex.strict t with
      | ok next => exact ih next
      | error cause => rfl
    | false =>
      have hskip : ¬lex.knows t = true := Bool.eq_false_iff.mp hknows
      rw [List.filter_cons_of_neg hskip, compileFrom, add_lenient_of_not_knows d lex s hknows]
      exact ih s

theorem compile_lenient (ts : List Token) :
    compile d lex.lenient ts = compile d lex.strict (ts.filter lex.knows) :=
  compileFrom_lenient d lex {} ts

end Segment

theorem ScalarConstraint.compile_lenient (lex : Lexicon) (ts : List Token) (s : Scalar) :
    compile lex.lenient ts s = compile lex.strict (ts.filter lex.knows) s := by
  cases s <;> rw [compile, compile, Segment.compile_lenient]

namespace Constraint

variable (lex : Lexicon)

theorem compilePointer_lenient (target : Scalar) (ts : List Token) :
    compilePointer lex.lenient target ts =
      compilePointer lex.strict target (ts.filter lex.knows) := by
  have htail : ((splitDive ts).2.map (·.filter lex.knows)).getD [] =
      ((splitDive ts).2.getD []).filter lex.knows := by
    cases (splitDive ts).2 <;> rfl
  simp only [compilePointer, splitDive_filter, Segment.compile_lenient,
    ScalarConstraint.compile_lenient, htail]

theorem compileRecord_lenient {ts : List Token}
    (h : ∀ tail, (splitDive ts).2 = some tail → tail = []) :
    compileRecord lex.lenient ts = compileRecord lex.strict (ts.filter lex.knows) := by
  unfold compileRecord
  rw [splitDive_filter]
  cases hsplit : splitDive ts with
  | mk head tail =>
    rw [hsplit] at h
    cases tail with
    | none => exact congrArg (Except.map Constraint.record) (Segment.compile_lenient _ lex head)
    | some tail =>
      obtain rfl := h tail rfl
      exact congrArg (Except.map Constraint.record) (Segment.compile_lenient _ lex head)

/-- To compile tokens leniently is to compile those that are known strictly. -/
theorem compile_lenient {shape : Shape} {ts : List Token} (h : shape.NothingBehindRecord ts) :
    compile lex.lenient shape ts = compile lex.strict shape (ts.filter lex.knows) := by
  induction shape generalizing ts with
  | scalar s => rw [compile, compile, ScalarConstraint.compile_lenient]
  | optional inner ih =>
    rw [compile, compile, any_isDive_filter, ih h]
    cases inner.core.scalar? with
    | none => rfl
    | some s =>
      dsimp only
      rw [compilePointer_lenient]
  | sequence element ih =>
    rw [compile, compile, splitDive_filter]
    cases hsplit : splitDive ts with
    | mk head tail =>
      rw [Shape.NothingBehindRecord, hsplit] at h
      dsimp only
      rw [Segment.compile_lenient]
      cases tail with
      | none => rfl
      | some tail =>
        dsimp only [Option.map_some]
        rw [ih (h tail rfl)]
  | record tag => exact compileRecord_lenient lex h
  | inert => rfl

end Constraint

/-! What is accepted strictly is accepted leniently. -/

section

variable {lex : Lexicon} {shape : Shape} {ts : List Token}

theorem Station.Admits.lenient {station : Station} {t : Token}
    (h : station.Admits lex.strict t) : station.Admits lex.lenient t := by
  cases h with
  | required => exact .required
  | argument b arg hne htakes => exact .argument b arg hne htakes
  | custom name hname hcontains => exact .custom name hname hcontains
  | ignored t hname hcontains hpolicy => cases hpolicy

theorem Station.LevelForm.lenient {station : Station} (h : station.LevelForm lex.strict ts) :
    station.LevelForm lex.lenient ts :=
  ⟨fun t ht => (h.admits t ht).lenient, h.once⟩

theorem WellFormed.lenient (h : WellFormed lex.strict shape ts) :
    WellFormed lex.lenient shape ts := by
  induction h with
  | inert ts => exact .inert ts
  | scalar s ts hlevel => exact .scalar s ts hlevel.lenient
  | sequence element ts hlevel => exact .sequence element ts hlevel.lenient
  | elements element head tail hhead _ ih => exact .elements element head tail hhead.lenient ih
  | record tag ts hlevel => exact .record tag ts hlevel.lenient
  | dived tag head hhead => exact .dived tag head hhead.lenient
  | pointer inner s hcore head tail hhead _ ih =>
    exact .pointer inner s hcore head tail hhead.lenient ih
  | optional inner ts hplain _ ih => exact .optional inner ts hplain ih

theorem ScalarConstraint.ofTokens_lenient (s : Scalar) :
    ofTokens lex.lenient ts s = ofTokens lex.strict ts s := by
  cases s <;> rfl

theorem Constraint.ofTokens_lenient :
    ofTokens lex.lenient shape ts = ofTokens lex.strict shape ts := by
  induction shape generalizing ts with
  | scalar s => exact congrArg Constraint.scalar (ScalarConstraint.ofTokens_lenient s)
  | optional inner ih =>
    rw [ofTokens, ofTokens, ih]
    split
    · rw [ScalarConstraint.ofTokens_lenient]
      rfl
    · rfl
  | sequence element ih =>
    rw [ofTokens, ofTokens]
    split
    · rw [ih]
      rfl
    · rfl
  | record tag => rfl
  | inert => rfl

theorem FieldDecl.Accepted.lenient {decl : FieldDecl} (h : decl.Accepted lex.strict) :
    decl.Accepted lex.lenient := by
  cases decl with
  | skipped name => trivial
  | checked name type rules => exact h.imp_right WellFormed.lenient

theorem FieldPlan.ofDecl_lenient {owner : TypeTag} {decl : FieldDecl} :
    ofDecl lex.lenient owner decl = ofDecl lex.strict owner decl := by
  cases decl with
  | skipped name => rfl
  | checked name type rules =>
    rw [ofDecl, ofDecl, Constraint.ofText, Constraint.ofText, Constraint.ofTokens_lenient]

end

namespace Inspector

/-- The same inspector, which refuses rules that nobody knows. -/
def strict (i : Inspector) : Inspector := { i with settings := i.lexicon.strict.settings }

/-- The same inspector, which leaves out rules that nobody knows. -/
def lenient (i : Inspector) : Inspector := { i with settings := i.lexicon.lenient.settings }

/-- A type that is registered strictly is registered leniently as well, with the same
blueprint. -/
theorem register_lenient {i j : Inspector} {t : RecordType} (h : i.strict.register t = .ok j) :
    i.lenient.register t = .ok j.lenient := by
  obtain ⟨hnew, haccepted, rfl⟩ := register_eq_ok_iff.mp h
  change ∀ decl ∈ t.fields, decl.Accepted i.lexicon.strict at haccepted
  have haccepted' : ∀ decl ∈ t.fields, decl.Accepted i.lexicon.lenient :=
    fun decl hdecl => (haccepted decl hdecl).lenient
  have hplans : FieldPlan.ofDecl i.lexicon.lenient t.tag = .ofDecl i.lexicon.strict t.tag :=
    funext fun decl => FieldPlan.ofDecl_lenient
  have hblueprint : Enrolment.blueprint ⟨t, i.lexicon.lenient, []⟩ =
      Enrolment.blueprint ⟨t, i.lexicon.strict, []⟩ := by
    simp only [Enrolment.blueprint, hplans]
  have hlater := congrArg
    (fun b => { i.lenient with blueprints := i.blueprints.insert t.tag b }) hblueprint.symm
  exact register_eq_ok_iff.mpr ⟨hnew, haccepted', hlater⟩

end Inspector

namespace Constraint

/-- Leniency is strictness without the tokens that nobody knows: with these and leniently,
tokens are refused for the same reason as without them and strictly, or are accepted and then
checked in the same way. What is accepted strictly is accepted leniently, tokens as well as
whole record types, and makes no difference to any check. -/
theorem lenient_eq_strict_without_unknown (lex : Lexicon) (shape : Shape) (ts : List Token) :
    (shape.NothingBehindRecord ts →
      (∃ bad, compile lex.lenient shape ts = .error bad ∧
        compile lex.strict shape (ts.filter lex.knows) = .error bad) ∨
      ∃ c c', compile lex.lenient shape ts = .ok c ∧
        compile lex.strict shape (ts.filter lex.knows) = .ok c' ∧
        ∀ (scope : Scope) (nullable : Bool) (label : String) (value : Value) (survey : Survey),
          scope.check c nullable label value survey =
            scope.check c' nullable label value survey) ∧
    (∀ c, compile lex.strict shape ts = .ok c →
      ∃ c', compile lex.lenient shape ts = .ok c' ∧
        ∀ (scope : Scope) (nullable : Bool) (label : String) (value : Value) (survey : Survey),
          scope.check c nullable label value survey =
            scope.check c' nullable label value survey) ∧
    ∀ (i j : Inspector) (t : RecordType), i.strict.register t = .ok j →
      ∃ j', i.lenient.register t = .ok j' ∧ ∀ (extent : Extent) (now : Instant) (r : Record),
        j'.inspect extent now r = j.inspect extent now r := by
  refine ⟨?_, ?_, fun i j t hj => ⟨_, Inspector.register_lenient hj, fun _ _ _ => rfl⟩⟩
  · intro h
    rw [compile_lenient lex h]
    cases compile lex.strict shape (ts.filter lex.knows) with
    | error bad => exact .inl ⟨bad, rfl, rfl⟩
    | ok c => exact .inr ⟨c, c, rfl, rfl, fun _ _ _ _ _ => rfl⟩
  · intro c hc
    obtain ⟨hform, rfl⟩ := (compile_eq_ok_iff shape).mp hc
    have hc' : compile lex.lenient shape ts = .ok (ofTokens lex.lenient shape ts) :=
      (compile_eq_ok_iff shape).mpr ⟨hform.lenient, rfl⟩
    exact ⟨_, hc', fun _ _ _ _ _ => by rw [ofTokens_lenient]⟩

/-- Two levels of three are empty without the unknown tokens. -/
theorem lenient_eq_strict_without_unknown_elements :
    let lex : Lexicon := ⟨⟨⟨[("odd", fun label _ => .ok (some (label ++ " is odd")))]⟩⟩, {}⟩
    let shape : Shape := .sequence (.optional (.scalar .text))
    let ts := tokens "nope|dive|odd|nope:1|dive|nope"
    let scope : Scope := ⟨.empty, .all, 64, ⟨0⟩⟩
    shape.NothingBehindRecord ts ∧
    ts.filter lex.knows = [.dive, ⟨"odd", none⟩, .dive] ∧
    ∃ c c', compile lex.lenient shape ts = .ok c ∧
      compile lex.strict shape (ts.filter lex.knows) = .ok c' ∧
      scope.check c' false "tags" (.sequence [.null, .just (.text "")]) {} =
        .ok () ⟨0, [⟨"tags[1]", "tags[1] is odd", "odd"⟩]⟩ := by
  intro lex shape ts scope
  have htokens : ts = [⟨"nope", none⟩, .dive, ⟨"odd", none⟩, ⟨"nope", some "1"⟩, .dive,
      ⟨"nope", none⟩] := by decide +kernel
  have hbehind : shape.NothingBehindRecord ts := fun _ _ => trivial
  have hknown : ts.filter lex.knows = [.dive, ⟨"odd", none⟩, .dive] := by
    rw [htokens]
    decide +kernel
  obtain ⟨c₀, hc₀⟩ : ∃ c, compile lex.lenient shape ts = .ok c := by
    rw [htokens]
    exact (isSome_toOption _).mp (by cbv)
  refine ⟨hbehind, hknown, ?_⟩
  rcases (lenient_eq_strict_without_unknown lex shape ts).1 hbehind with
    ⟨bad, hbad, -⟩ | ⟨c, c', hc, hc', hcheck⟩
  · rw [hc₀] at hbad
    cases hbad
  · refine ⟨c, c', hc, hc', ?_⟩
    rw [← hcheck, ((compile_eq_ok_iff _).mp hc).2, htokens]
    cbv

/-- Behind the dive of a record an unknown token is refused, whatever the policy is. -/
example : compile (Lexicon.lenient ⟨.empty, {}⟩) (.record ⟨1, "User"⟩) [.dive, ⟨"nope", none⟩] =
    .error ⟨⟨"nope", none⟩, .malformed .beyondRecord⟩ := rfl

end Constraint

end RecordValidation
