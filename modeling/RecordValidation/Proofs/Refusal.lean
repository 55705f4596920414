import RecordValidation.Proofs.Enrolment
import RecordValidation.Proofs.Extents

/-!
Refusals: steps that would set an inspector up, but do not. A step is refused for one
of four causes, and a refused step can be left out of a session without any other
answer being different. Several registrations at once are the registrations before the
first one that is refused.
-/

namespace RecordValidation

theorem bind_eq_error_iff {ε α β : Type} {x : Except ε α} {f : α → Except ε β} {e : ε} :
    x >>= f = .error e ↔ x = .error e ∨ ∃ a, x = .ok a ∧ f a = .error e := by
  cases x with
  | error e' =>
    constructor
    · exact fun h => .inl (congrArg _ (Except.error.inj h))
    · rintro (h | ⟨_, h, -⟩)
      · cases h
        rfl
      · cases h
  | ok a =>
    constructor
    · exact fun h => .inr ⟨a, rfl, h⟩
    · rintro (h | ⟨_, h, hf⟩)
      · cases h
      · cases h
        exact hf

namespace Blueprint

variable {lex : Lexicon} {owner : TypeTag}

theorem compileField_eq_error_iff {decl : FieldDecl} {f : Fault} :
    compileField lex owner decl = .error f ↔
      ∃ name type rules bad, decl = .checked name type rules ∧
        Constraint.ofAnnotation lex type.shape rules = .error bad ∧
        f = .registration owner.name name bad.token bad.cause := by
  cases decl with
  | skipped name =>
    constructor
    · intro h
      cases h
    · rintro ⟨_, _, _, _, hdecl, -⟩
      cases hdecl
  | checked name type rules =>
    rw [compileField]
    cases hc : Constraint.ofAnnotation lex type.shape rules with
    | ok c =>
      constructor
      · intro h
        cases h
      · rintro ⟨_, _, _, bad, hdecl, hbad, -⟩
        cases hdecl
        rw [hc] at hbad
        cases hbad
    | error bad =>
      constructor
      · intro h
        cases h
        exact ⟨name, type, rules, bad, rfl, hc, rfl⟩
      · rintro ⟨_, _, _, bad', hdecl, hbad, rfl⟩
        cases hdecl
        rw [hc] at hbad
        cases hbad
        rfl

/-- The first field whose annotation is not accepted decides on the fault. -/
theorem compileFields_eq_error_iff {decls : List FieldDecl} {f : Fault} :
    compileFields lex owner decls = .error f ↔
      ∃ before name type rules after bad, decls = before ++ .checked name type rules :: after ∧
        (∀ decl ∈ before, decl.Accepted lex) ∧
        Constraint.ofAnnotation lex type.shape rules = .error bad ∧
        f = .registration owner.name name bad.token bad.cause := by
  induction decls with
  | nil =>
    constructor
    · intro h
      cases h
    · rintro ⟨before, _, _, _, _, _, hdecls, -⟩
      cases before <;> cases hdecls
  | cons decl rest ih =>
    rw [compileFields, bind_eq_error_iff]
    constructor
    · rintro (h | ⟨plan, hplan, h⟩)
      · obtain ⟨name, type, rules, bad, rfl, hbad, hf⟩ := compileField_eq_error_iff.mp h
        exact ⟨[], name, type, rules, rest, bad, rfl, List.forall_mem_nil _, hbad, hf⟩
      · have hrest : compileFields lex owner rest = .error f := by
          rcases bind_eq_error_iff.mp h with h | ⟨plans, -, h⟩
          · exact h
          · cases h
        obtain ⟨before, name, type, rules, after, bad, rfl, hbefore, hbad, hf⟩ := ih.mp hrest
        have haccepted := (compileField_eq_ok_iff.mp hplan).1
        exact ⟨decl :: before, name, type, rules, after, bad, rfl,
          List.forall_mem_cons.mpr ⟨haccepted, hbefore⟩, hbad, hf⟩
    · rintro ⟨before, name, type, rules, after, bad, hdecls, hbefore, hbad, hf⟩
      cases before with
      | nil =>
        cases hdecls
        exact .inl (compileField_eq_error_iff.mpr ⟨name, type, rules, bad, rfl, hbad, hf⟩)
      | cons first before =>
        cases hdecls
        obtain ⟨hfirst, hbefore⟩ := List.forall_mem_cons.mp hbefore
        have hrest := ih.mpr ⟨before, name, type, rules, after, bad, rfl, hbefore, hbad, hf⟩
        refine .inr ⟨_, compileField_eq_ok_iff.mpr ⟨hfirst, rfl⟩, ?_⟩
        exact bind_eq_error_iff.mpr (.inl hrest)

end Blueprint

/-- Steps that set up one thing. -/
def Step.setsUp : Step → Bool
  | .register _ | .addRule _ _ | .addRecordRule _ _ => true
  | _ => false

/-- The causes for which an inspector refuses to be set up: the type is registered
already, the annotation of a field is not accepted, the name of the rule is reserved,
or there is no such type to have the rule. -/
inductive Inspector.Refuses (i : Inspector) : Step → Fault → Prop
  | registered (t : RecordType) (h : i.isRegistered t.tag = true) :
      i.Refuses (.register t) (.alreadyRegistered t.tag.name)
  | rejected (tag : TypeTag) (before after : List FieldDecl) (name : String)
      (type : FieldType) (rules : String) (bad : BadToken) (hnew : i.isRegistered tag = false)
      (hbefore : ∀ decl ∈ before, decl.Accepted i.lexicon)
      (hbad : Constraint.ofAnnotation i.lexicon type.shape rules = .error bad) :
      i.Refuses (.register ⟨tag, before ++ .checked name type rules :: after⟩)
        (.registration tag.name name bad.token bad.cause)
  | reserved (name : String) (rule : Rule) (h : RuleBook.isReserved name = true) :
      i.Refuses (.addRule name rule) (.reservedRule name)
  | unregistered (tag : TypeTag) (rule : RecordRule) (h : i.isRegistered tag = false) :
      i.Refuses (.addRecordRule tag rule) (.notRegistered tag.name)

namespace Inspector

variable {i : Inspector} {f : Fault}

theorem ofType_eq_error_iff {lex : Lexicon} {t : RecordType} :
    Blueprint.ofType lex t = .error f ↔ Blueprint.compileFields lex t.tag t.fields = .error f := by
  rw [Blueprint.ofType, bind_eq_error_iff]
  constructor
  · rintro (h | ⟨plans, -, h⟩)
    · exact h
    · cases h
  · exact .inl

theorem register_eq_error_iff {t : RecordType} :
    i.register t = .error f ↔ i.Refuses (.register t) f := by
  obtain ⟨tag, fields⟩ := t
  cases hregistered : i.isRegistered tag with
  | true =>
    have hfault : i.register ⟨tag, fields⟩ = .error (.alreadyRegistered tag.name) := by
      unfold register
      rw [isRegistered] at hregistered
      rw [hregistered]
      rfl
    rw [hfault]
    constructor
    · intro h
      cases h
      exact .registered ⟨tag, fields⟩ hregistered
    · intro h
      cases h with
      | registered t h => rfl
      | rejected tag before after name type rules bad hnew hbefore hbad =>
        rw [hregistered] at hnew
        cases hnew
  | false =>
    have hfault : i.register ⟨tag, fields⟩ = .error f ↔
        Blueprint.compileFields i.lexicon tag fields = .error f := by
      rw [isRegistered] at hregistered
      unfold register
      rw [hregistered]
      constructor
      · intro h
        rcases bind_eq_error_iff.mp h with h | ⟨blueprint, -, h⟩
        · exact ofType_eq_error_iff.mp h
        · cases h
      · exact fun h => bind_eq_error_iff.mpr (.inl (ofType_eq_error_iff.mpr h))
    rw [hfault, Blueprint.compileFields_eq_error_iff]
    constructor
    · rintro ⟨before, name, type, rules, after, bad, rfl, hbefore, hbad, rfl⟩
      exact .rejected tag before after name type rules bad hregistered hbefore hbad
    · intro h
      cases h with
      | registered t h =>
        rw [hregistered] at h
        cases h
      | rejected tag before after name type rules bad hnew hbefore hbad =>
        exact ⟨before, name, type, rules, after, bad, rfl, hbefore, hbad, rfl⟩

theorem addRule_eq_error_iff {name : String} {rule : Rule} :
    i.addRule name rule = .error f ↔ i.Refuses (.addRule name rule) f := by
  rw [addRule, bind_eq_error_iff, RuleBook.insert]
  constructor
  · rintro (h | ⟨rules, -, h⟩)
    · split at h
      · next hreserved =>
        cases h
        exact .reserved name rule hreserved
      · cases h
    · cases h
  · intro h
    cases h with
    | reserved name rule h => exact .inl (if_pos h)

theorem addRecordRule_eq_error_iff {tag : TypeTag} {rule : RecordRule} :
    i.addRecordRule tag rule = .error f ↔ i.Refuses (.addRecordRule tag rule) f := by
  rw [addRecordRule]
  cases hfind : i.blueprints.find? tag with
  | none =>
    constructor
    · intro h
      cases h
      exact .unregistered tag rule (by rw [isRegistered, Roster.contains, hfind, Option.isSome_none])
    · intro h
      cases h
      rfl
  | some blueprint =>
    constructor
    · intro h
      cases h
    · intro h
      cases h with
      | unregistered tag rule h =>
        rw [isRegistered, Roster.contains, hfind] at h
        cases h

theorem attempt_eq_fault_iff {answer : Answer} (hanswer : answer ≠ .fault f)
    (x : Except Fault Inspector) : (i.attempt answer x).2 = .fault f ↔ x = .error f := by
  cases x with
  | ok i' =>
    constructor
    · exact fun h => absurd h hanswer
    · nofun
  | error g =>
    constructor
    · intro h
      cases h
      rfl
    · intro h
      cases h
      rfl

/-- A step that sets up one thing is answered with a fault if it is refused for it. -/
theorem step_answer_eq_fault_iff {s : Step} (hs : s.setsUp = true) (now : Instant) :
    (i.step now s).2 = .fault f ↔ i.Refuses s f := by
  cases s with
  | register t =>
    rw [← register_eq_error_iff]
    exact attempt_eq_fault_iff Answer.noConfusion (i.register t)
  | addRule name rule =>
    rw [← addRule_eq_error_iff]
    exact attempt_eq_fault_iff Answer.noConfusion (i.addRule name rule)
  | addRecordRule tag rule =>
    rw [← addRecordRule_eq_error_iff]
    exact attempt_eq_fault_iff Answer.noConfusion (i.addRecordRule tag rule)
  | _ => cases hs

/-- A step that is refused changes nothing. -/
theorem Refuses.step_eq {s : Step} (h : i.Refuses s f) (now : Instant) :
    i.step now s = (i, .fault f) := by
  cases s with
  | register t =>
    rw [step, register_eq_error_iff.mpr h]
    rfl
  | addRule name rule =>
    rw [step, addRule_eq_error_iff.mpr h]
    rfl
  | addRecordRule tag rule =>
    rw [step, addRecordRule_eq_error_iff.mpr h]
    rfl
  | _ => cases h

theorem run_cons (now : Instant) (s : Step) (later : List Step) :
    i.run now (s :: later) =
      (((i.step now s).1.run now later).1,
        (i.step now s).2 :: ((i.step now s).1.run now later).2) := rfl

theorem step_register_of_ok {i' : Inspector} {t : RecordType} (h : i.register t = .ok i')
    (now : Instant) : i.step now (.register t) = (i', .registered t.fields.length) := by
  rw [step, h]
  rfl

theorem registerAll_cons_of_ok {i' : Inspector} {t : RecordType} (h : i.register t = .ok i')
    (rest : List RecordType) : i.registerAll (t :: rest) = i'.registerAll rest := by
  rw [registerAll, h]

theorem registerAll_cons_of_error {t : RecordType} (h : i.register t = .error f)
    (rest : List RecordType) : i.registerAll (t :: rest) = (i, some f) := by
  rw [registerAll, h]

/-- Whether types can be registered in turn, and what inspector comes of it. -/
def Registers (i : Inspector) (now : Instant) (ts : List RecordType) (j : Inspector) : Prop :=
  i.run now (ts.map .register) = (j, ts.map fun t => .registered t.fields.length)

theorem registers_cons_iff {now : Instant} {t : RecordType} {rest : List RecordType}
    {j : Inspector} :
    i.Registers now (t :: rest) j ↔ ∃ i', i.register t = .ok i' ∧ i'.Registers now rest j := by
  unfold Registers
  rw [List.map_cons, run_cons, List.map_cons, Prod.mk.injEq, List.cons.injEq]
  constructor
  · rintro ⟨hlast, hanswer, hanswers⟩
    cases hregister : i.register t with
    | ok i' =>
      rw [step_register_of_ok hregister] at hlast hanswers
      exact ⟨i', rfl, Prod.ext hlast hanswers⟩
    | error f =>
      rw [(register_eq_error_iff.mp hregister).step_eq] at hanswer
      cases hanswer
  · rintro ⟨i', hregister, hrest⟩
    rw [step_register_of_ok hregister, hrest]
    exact ⟨rfl, rfl, rfl⟩

/-- Several registrations at once end with a fault if some types can be registered and
the next one is refused for it. -/
theorem registerAll_eq_some_iff {ts : List RecordType} {j : Inspector} (now : Instant) :
    i.registerAll ts = (j, some f) ↔
      ∃ done t rest, ts = done ++ t :: rest ∧ i.Registers now done j ∧
        j.Refuses (.register t) f := by
  induction ts generalizing i with
  | nil =>
    constructor
    · nofun
    · rintro ⟨done, _, _, h, -⟩
      cases done <;> cases h
  | cons t rest ih =>
    cases hregister : i.register t with
    | ok i' =>
      rw [registerAll_cons_of_ok hregister, ih]
      constructor
      · rintro ⟨done, t', rest', rfl, hdone, hrefuses⟩
        have hdone' := registers_cons_iff.mpr ⟨i', hregister, hdone⟩
        exact ⟨t :: done, t', rest', rfl, hdone', hrefuses⟩
      · rintro ⟨done, t', rest', hts, hdone, hrefuses⟩
        cases done with
        | nil =>
          cases hts
          cases hdone
          have herror := register_eq_error_iff.mpr hrefuses
          rw [hregister] at herror
          cases herror
        | cons first done =>
          cases hts
          obtain ⟨i'', hfirst, hdone⟩ := registers_cons_iff.mp hdone
          rw [hregister] at hfirst
          cases hfirst
          exact ⟨done, t', rest', rfl, hdone, hrefuses⟩
    | error g =>
      rw [registerAll_cons_of_error hregister]
      constructor
      · intro h
        cases h
        exact ⟨[], t, rest, rfl, rfl, register_eq_error_iff.mp hregister⟩
      · rintro ⟨done, t', rest', hts, hdone, hrefuses⟩
        cases done with
        | nil =>
          cases hts
          cases hdone
          rw [register_eq_error_iff.mpr hrefuses] at hregister
          cases hregister
          rfl
        | cons first done =>
          cases hts
          obtain ⟨i'', hfirst, -⟩ := registers_cons_iff.mp hdone
          rw [hregister] at hfirst
          cases hfirst

theorem registerAll_snd_of_fault {now : Instant} {ts : List RecordType}
    (h : (i.step now (.registerAll ts)).2 = .fault f) : (i.registerAll ts).2 = some f := by
  rw [step] at h
  cases hfailed : (i.registerAll ts).2 with
  | none =>
    dsimp only at h
    rw [hfailed] at h
    cases h
  | some g =>
    dsimp only at h
    rw [hfailed] at h
    cases h
    rfl

/-- Registrations leave the blueprints of all other types as they are. -/
theorem Registers.find?_blueprints {now : Instant} {ts : List RecordType} {j : Inspector}
    (h : i.Registers now ts j) {tag : TypeTag} (htag : ∀ t ∈ ts, t.tag ≠ tag) :
    j.blueprints.find? tag = i.blueprints.find? tag := by
  induction ts generalizing i with
  | nil =>
    cases h
    rfl
  | cons t rest ih =>
    obtain ⟨hne, hrest⟩ := List.forall_mem_cons.mp htag
    obtain ⟨i', hregister, h⟩ := registers_cons_iff.mp h
    obtain ⟨-, -, rfl⟩ := register_eq_ok_iff.mp hregister
    rw [ih h hrest, Roster.find?_insert, if_neg hne]

/-- A step that sets up one thing and fails leaves no trace: it was refused for one of
the four causes, the inspector after it is the one before it, and later steps are
answered as if it had not been there. Several registrations at once that fail are those
before the first one that is refused, with the fault of that one; the types behind it
make no difference, and other types than those before it are left as they were. -/
theorem failed_setup_leaves_no_trace (i : Inspector) (now : Instant) :
    (∀ s f, s.setsUp = true → (i.step now s).2 = .fault f →
      i.Refuses s f ∧ (i.step now s).1 = i ∧
      ∀ later, i.run now (s :: later) = ((i.run now later).1, .fault f :: (i.run now later).2)) ∧
    (∀ ts f, (i.step now (.registerAll ts)).2 = .fault f →
      ∃ done t rest j, ts = done ++ t :: rest ∧ i.Registers now done j ∧
        j.Refuses (.register t) f ∧ j.step now (.register t) = (j, .fault f) ∧
        (∀ tag, (∀ t' ∈ done, t'.tag ≠ tag) →
          j.blueprints.find? tag = i.blueprints.find? tag) ∧
        ∀ rest' later, i.run now (.registerAll (done ++ t :: rest') :: later) =
          ((j.run now later).1, .fault f :: (j.run now later).2)) := by
  constructor
  · intro s f hs hfault
    have hrefuses : i.Refuses s f := (step_answer_eq_fault_iff hs now).mp hfault
    have hstep : i.step now s = (i, .fault f) := hrefuses.step_eq now
    refine ⟨hrefuses, congrArg Prod.fst hstep, fun later => ?_⟩
    rw [run_cons, hstep]
  · intro ts f hfault
    obtain ⟨j, hall⟩ : ∃ j, i.registerAll ts = (j, some f) :=
      ⟨_, Prod.ext rfl (registerAll_snd_of_fault hfault)⟩
    obtain ⟨done, t, rest, rfl, hdone, hrefuses⟩ := (registerAll_eq_some_iff now).mp hall
    refine ⟨done, t, rest, j, rfl, hdone, hrefuses, hrefuses.step_eq now,
      fun tag htag => hdone.find?_blueprints htag, fun rest' later => ?_⟩
    have hall' : i.registerAll (done ++ t :: rest') = (j, some f) :=
      (registerAll_eq_some_iff now).mpr ⟨done, t, rest', rfl, hdone, hrefuses⟩
    rw [run_cons, step, hall']
    rfl

end Inspector

/-- A record type that can not be registered, for the annotation of its last field. -/
def RecordType.order : RecordType where
  tag := ⟨2, "Order"⟩
  fields := [
    .checked "id" .text "req|min:8",
    .checked "count" (.integer (.signed 64)) "max:many"]

namespace Inspector

theorem failed_setup_leaves_no_trace_order :
    ∃ f, run {} ⟨0⟩ [.register .order, .isRegistered RecordType.order.tag, .ruleNames] =
        ({}, [.fault f, .isRegistered false, .ruleNames []]) ∧
      ∃ done t rest j, [RecordType.user, .order, .user] = done ++ t :: rest ∧
        Registers {} ⟨0⟩ done j ∧ j.Refuses (.register t) f ∧
        ∀ later, run {} ⟨0⟩ (.registerAll [.user, .order, .user] :: later) =
          ((j.run ⟨0⟩ later).1, .fault f :: (j.run ⟨0⟩ later).2) := by
  have hfault : (step {} ⟨0⟩ (.register .order)).2 = .fault (.registration "Order" "count"
      ⟨"max", some "many"⟩ (.malformed (.notWhole .invalidDigit))) := by cbv
  have hall : (step {} ⟨0⟩ (.registerAll [.user, .order, .user])).2 = .fault (.registration
      "Order" "count" ⟨"max", some "many"⟩ (.malformed (.notWhole .invalidDigit))) := by cbv
  obtain ⟨-, -, hlater⟩ := (failed_setup_leaves_no_trace {} ⟨0⟩).1 _ _ rfl hfault
  obtain ⟨done, t, rest, j, hts, hdone, hrefuses, -, -, hrun⟩ :=
    (failed_setup_leaves_no_trace {} ⟨0⟩).2 _ _ hall
  refine ⟨_, hlater _, done, t, rest, j, hts, hdone, hrefuses, fun later => ?_⟩
  rw [hts]
  exact hrun rest later

end Inspector

end RecordValidation
