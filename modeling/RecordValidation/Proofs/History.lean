import RecordValidation.Proofs.Naming

/-!
Histories of inspectors. What an inspector knows is told from the steps of its session: a
rule in its book is the one that was last accepted under the name, and a blueprint was made
by the step that registered its type, from the rules that were in the book before that step.
-/

namespace RecordValidation

namespace Step

/-- The attempt to enter a rule that a step makes. -/
def attempt? : Step → Option (String × Rule)
  | .addRule name rule => some (name, rule)
  | _ => none

/-- The types that a step is to register. -/
def types : Step → List RecordType
  | .register t => [t]
  | .registerAll ts => ts
  | _ => []

end Step

/-- The rule that was last accepted under a name in some steps. -/
def lastRule? (steps : List Step) (name : String) : Option Rule :=
  RuleBook.lastAccepted? (steps.filterMap Step.attempt?) name

namespace Inspector

variable {i : Inspector} {now : Instant} {tag : TypeTag} {b : Blueprint}

theorem run_append (i : Inspector) (now : Instant) (steps later : List Step) :
    i.run now (steps ++ later) =
      (((i.run now steps).1.run now later).1,
        (i.run now steps).2 ++ ((i.run now steps).1.run now later).2) := by
  induction steps generalizing i with
  | nil => rfl
  | cons s rest ih => rw [List.cons_append, run_cons, run_cons, ih, List.cons_append]

theorem lexicon_register {i' : Inspector} {t : RecordType} (h : i.register t = .ok i') :
    i'.lexicon = i.lexicon := by
  obtain ⟨-, -, rfl⟩ := register_eq_ok_iff.mp h
  rfl

theorem lexicon_registerAll (i : Inspector) (ts : List RecordType) :
    (i.registerAll ts).1.lexicon = i.lexicon := by
  induction ts generalizing i with
  | nil => rfl
  | cons t rest ih =>
    cases hregister : i.register t with
    | ok i' => rw [registerAll_cons_of_ok hregister, ih, lexicon_register hregister]
    | error f => rw [registerAll_cons_of_error hregister]

theorem step_addRule_eq (i : Inspector) (now : Instant) (name : String) (rule : Rule) :
    (i.step now (.addRule name rule)).1 = { i with rules := i.rules.enter (name, rule) } := by
  show (i.attempt .done (i.addRule name rule)).1 = _
  unfold addRule RuleBook.enter
  cases i.rules.insert name rule <;> rfl

/-- Of all steps only an attempt to enter a rule makes a difference to what is known when
types are registered. -/
theorem lexicon_step (i : Inspector) (now : Instant) (s : Step) :
    (i.step now s).1.lexicon = ⟨s.attempt?.elim i.rules i.rules.enter, i.settings⟩ := by
  cases s with
  | register t =>
    rw [step]
    cases hregister : i.register t with
    | ok i' => exact lexicon_register hregister
    | error f => rfl
  | registerAll ts => exact lexicon_registerAll i ts
  | addRule name rule => exact congrArg lexicon (step_addRule_eq i now name rule)
  | addRecordRule tag rule =>
    rw [step]
    cases hadd : i.addRecordRule tag rule with
    | ok i' =>
      obtain ⟨_, -, rfl⟩ := addRecordRule_eq_ok_iff.mp hadd
      rfl
    | error f => rfl
  | _ => rfl

theorem lexicon_run (i : Inspector) (now : Instant) (steps : List Step) :
    (i.run now steps).1.lexicon =
      ⟨i.rules.enterAll (steps.filterMap Step.attempt?), i.settings⟩ := by
  induction steps generalizing i with
  | nil => rfl
  | cons s rest ih =>
    have hstep := lexicon_step i now s
    have hrules := congrArg Lexicon.rules hstep
    have hsettings := congrArg Lexicon.settings hstep
    dsimp only [lexicon] at hrules hsettings
    rw [run_cons, ih, hrules, hsettings]
    cases hattempt : s.attempt? with
    | none => rw [List.filterMap_cons_none hattempt, Option.elim_none]
    | some attempt =>
      rw [List.filterMap_cons_some hattempt, Option.elim_some]
      rfl

/-- The inspectors that sessions lead to, from the settings alone. -/
def after (settings : Settings) (now : Instant) (steps : List Step) : Inspector :=
  ((withSettings settings).run now steps).1

variable {settings : Settings} {steps : List Step}

theorem after_append (settings : Settings) (now : Instant) (steps later : List Step) :
    after settings now (steps ++ later) = ((after settings now steps).run now later).1 := by
  rw [after, run_append]
  rfl

theorem settings_after (settings : Settings) (now : Instant) (steps : List Step) :
    (after settings now steps).settings = settings :=
  congrArg Lexicon.settings (lexicon_run (withSettings settings) now steps)

theorem rules_after (settings : Settings) (now : Instant) (steps : List Step) :
    (after settings now steps).rules = RuleBook.empty.enterAll (steps.filterMap Step.attempt?) :=
  congrArg Lexicon.rules (lexicon_run (withSettings settings) now steps)

theorem find?_rules_after (settings : Settings) (now : Instant) (steps : List Step) :
    (after settings now steps).rules.find? = lastRule? steps := by
  funext name
  rw [rules_after, RuleBook.find?_enterAll]
  exact Option.or_none

/-- The blueprint of a type that was not registered before several registrations is made
by one of these, which knows the same rules as the first. -/
theorem exists_of_find?_registerAll {ts : List RecordType} (hnew : i.blueprints.find? tag = none)
    (h : (i.registerAll ts).1.blueprints.find? tag = some b) :
    ∃ t ∈ ts, t.tag = tag ∧ (∀ decl ∈ t.fields, decl.Accepted i.lexicon) ∧
      b = Enrolment.blueprint ⟨t, i.lexicon, []⟩ := by
  induction ts generalizing i with
  | nil =>
    rw [registerAll, hnew] at h
    cases h
  | cons t rest ih =>
    cases hregister : i.register t with
    | ok i' =>
      obtain ⟨-, haccepted, hi'⟩ := register_eq_ok_iff.mp hregister
      rw [registerAll_cons_of_ok hregister] at h
      have hfind : i'.blueprints.find? tag =
          if t.tag = tag then some (Enrolment.blueprint ⟨t, i.lexicon, []⟩) else none := by
        rw [hi', Roster.find?_insert, hnew]
      by_cases htag : t.tag = tag
      · rw [if_pos htag] at hfind
        rw [find?_registerAll hfind rest] at h
        exact ⟨t, List.mem_cons_self, htag, haccepted, (Option.some.inj h).symm⟩
      · rw [if_neg htag] at hfind
        obtain ⟨t', ht', hmade⟩ := ih hfind h
        rw [lexicon_register hregister] at hmade
        exact ⟨t', List.mem_cons_of_mem t ht', hmade⟩
    | error f =>
      rw [registerAll_cons_of_error hregister, hnew] at h
      cases h

theorem step_register_eq_registerAll (i : Inspector) (now : Instant) (t : RecordType) :
    (i.step now (.register t)).1 = (i.registerAll [t]).1 := by
  cases hregister : i.register t with
  | ok i' => rw [step_register_of_ok hregister, registerAll_cons_of_ok hregister, registerAll]
  | error f =>
    rw [(register_eq_error_iff.mp hregister).step_eq, registerAll_cons_of_error hregister]

/-- The blueprint of a type that was not registered before a step is that of a type which
the step registers. -/
theorem exists_of_find?_step {s : Step} (hnew : i.blueprints.find? tag = none)
    (h : (i.step now s).1.blueprints.find? tag = some b) :
    ∃ t ∈ s.types, t.tag = tag ∧ (∀ decl ∈ t.fields, decl.Accepted i.lexicon) ∧
      b = Enrolment.blueprint ⟨t, i.lexicon, []⟩ := by
  have hchange (h : i.blueprints.find? tag = some b) : False := by
    rw [hnew] at h
    cases h
  cases s with
  | register t =>
    rw [step_register_eq_registerAll] at h
    exact exists_of_find?_registerAll hnew h
  | registerAll ts => exact exists_of_find?_registerAll hnew h
  | addRule name rule =>
    rw [step_addRule_eq] at h
    exact (hchange h).elim
  | addRecordRule tag' rule =>
    rw [step] at h
    cases hadd : i.addRecordRule tag' rule with
    | ok i' =>
      obtain ⟨b', hb', rfl⟩ := addRecordRule_eq_ok_iff.mp hadd
      have hne : tag' ≠ tag := by
        rintro rfl
        rw [hnew] at hb'
        cases hb'
      rw [hadd, attempt, Roster.find?_insert, if_neg hne] at h
      exact (hchange h).elim
    | error f =>
      rw [hadd] at h
      exact (hchange h).elim
  | _ => exact (hchange h).elim

end Inspector

/-- The registration of a type in a session: the step that made its blueprint, from what
was known before that step. -/
structure Registration (settings : Settings) (now : Instant) (steps : List Step)
    (tag : TypeTag) where
  before : List Step
  step : Step
  later : List Step
  type : RecordType
  steps_eq : steps = before ++ step :: later
  mem_types : type ∈ step.types
  tag_eq : type.tag = tag
  fresh : (Inspector.after settings now before).blueprints.find? tag = none
  accepted : ∀ decl ∈ type.fields, decl.Accepted (Inspector.after settings now before).lexicon
  made : ((Inspector.after settings now before).step now step).1.blueprints.find? tag =
    some (Enrolment.blueprint ⟨type, (Inspector.after settings now before).lexicon, []⟩)

namespace Registration

variable {settings : Settings} {now : Instant} {steps : List Step} {tag : TypeTag}

/-- What was enrolled: the type as it was registered, and the rules for its records that
were added later. -/
def enrolment (reg : Registration settings now steps tag) : Enrolment where
  type := reg.type
  lexicon := (Inspector.after settings now reg.before).lexicon
  recordRules := reg.later.filterMap (·.recordRule? tag)

/-- The same registration, when the session has gone on. -/
def extend (reg : Registration settings now steps tag) (s : Step) :
    Registration settings now (steps ++ [s]) tag :=
  { reg with
    later := reg.later ++ [s]
    steps_eq := (congrArg (· ++ [s]) reg.steps_eq).trans (List.append_assoc reg.before _ [s]) }

theorem blueprint_extend (reg : Registration settings now steps tag) (s : Step) :
    (reg.extend s).enrolment.blueprint =
      { reg.enrolment.blueprint with
        recordRules := reg.enrolment.blueprint.recordRules ++
          (s.recordRule? tag).toList.map (⟨tag, ·⟩) } := by
  have hrules : (reg.later ++ [s]).filterMap (·.recordRule? tag) =
      reg.later.filterMap (·.recordRule? tag) ++ (s.recordRule? tag).toList := by
    rw [List.filterMap_append]
    cases hrule : s.recordRule? tag with
    | none => rw [List.filterMap_cons_none hrule, List.filterMap_nil, Option.toList_none]
    | some rule => rw [List.filterMap_cons_some hrule, List.filterMap_nil, Option.toList_some]
  unfold Enrolment.blueprint enrolment extend
  dsimp only
  rw [hrules, List.map_append, reg.tag_eq]

end Registration

/-- Every blueprint that an inspector has was made by a registration. -/
theorem Inspector.exists_registration {settings : Settings} {now : Instant} {steps : List Step}
    {tag : TypeTag} {b : Blueprint}
    (h : (after settings now steps).blueprints.find? tag = some b) :
    ∃ reg : Registration settings now steps tag, b = reg.enrolment.blueprint := by
  induction steps using List.reverseRecOn generalizing b with
  | nil => cases h
  | append_singleton steps s ih =>
    have hstep : after settings now (steps ++ [s]) = ((after settings now steps).step now s).1 :=
      after_append settings now steps [s]
    rw [hstep] at h
    cases hfind : (after settings now steps).blueprints.find? tag with
    | none =>
      obtain ⟨t, ht, htag, haccepted, rfl⟩ := exists_of_find?_step hfind h
      exact ⟨⟨steps, s, [], t, rfl, ht, htag, hfind, haccepted, h⟩, rfl⟩
    | some b' =>
      obtain ⟨reg, rfl⟩ := ih hfind
      rw [find?_step hfind] at h
      exact ⟨reg.extend s, (Option.some.inj h).symm.trans (reg.blueprint_extend s).symm⟩

end RecordValidation
