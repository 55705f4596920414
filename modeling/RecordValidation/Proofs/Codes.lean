import RecordValidation.Proofs.RuleNames

/-!
Codes of violations. A code tells which check has failed, as long as no custom rule has the
code of another check for its name. Most of these codes are words of annotations, which no
rule can have for a name. The codes of values that are missing and of rules for whole
records are not, so that a rule can be accepted under them and report under them.
-/

namespace RecordValidation

namespace Builtin

/-- The code under which a built-in check reports. A dive is not checked. -/
def code? : Builtin → Option String
  | .required => some Violation.requiredCode
  | .least => some Violation.leastCode
  | .greatest => some Violation.greatestCode
  | .member => some Violation.memberCode
  | .pattern => some Violation.patternCode
  | .dive => none

variable {b : Builtin} {code : String}

/-- The codes of the checks that measure a value are what these checks are called. -/
theorem name_of_code? (hb : b ≠ .required) (h : b.code? = some code) : b.name = code := by
  cases b with
  | required => exact absurd rfl hb
  | dive => cases h
  | _ => exact Option.some.inj h

theorem code?_injective : Function.Injective code? := by
  intro b b'
  cases b <;> cases b' <;> decide

theorem eq_of_code? {b' : Builtin} (h : b.code? = some code) (h' : b'.code? = some code) :
    b = b' :=
  code?_injective (h.trans h'.symm)

theorem code?_ne_recordCode (b : Builtin) : b.code? ≠ some Violation.recordCode := by
  cases b <;> decide

end Builtin

/-- No rule can have a name that is the code of a check that measures values. -/
theorem RuleName.code?_ne {name : String} (h : RuleName name) {b : Builtin}
    (hb : b ≠ .required) : b.code? ≠ some name := by
  intro hcode
  have hname : b.name = name := Builtin.name_of_code? hb hcode
  have hnone := h.ofName?_eq_none
  rw [← hname, Builtin.ofName?_name] at hnone
  cases hnone

namespace Violation

/-- The codes of the checks that come with the library. -/
def ownCodes : List String :=
  [requiredCode, greatestCode, leastCode, patternCode, memberCode, recordCode]

theorem mem_ownCodes_of_code? {b : Builtin} {code : String} (h : b.code? = some code) :
    code ∈ ownCodes := by
  cases b with
  | dive => cases h
  | _ =>
    cases h
    decide

theorem recordCode_mem_ownCodes : recordCode ∈ ownCodes := by decide

theorem requiredCode_ne_recordCode : requiredCode ≠ recordCode := by decide

end Violation

namespace Segment

variable {β α : Type}

/-- Whether a present value fails a built-in check of a level. -/
def fails (s : Segment β α) (g : Gauge β α) : Builtin → Bool
  | .greatest => s.greatest.any g.above
  | .least => s.least.any g.below
  | .pattern => s.pattern.any (!g.fits ·)
  | .member => s.members.any (!·.any g.equals)
  | .required | .dive => false

/-- A value that is measured has failed the check that the code stands for. -/
theorem exists_fails_of_mem_failures {s : Segment β α} {g : Gauge β α} {label : String}
    {v : Violation} (h : v ∈ s.failures g label) :
    ∃ b : Builtin, b ≠ .required ∧ b.code? = some v.code ∧ s.fails g b = true := by
  simp only [failures, List.mem_append, Option.mem_toList, Option.map_eq_some_iff,
    Option.filter_eq_some_iff] at h
  rcases h with ((⟨bound, ⟨hs, hg⟩, rfl⟩ | ⟨bound, ⟨hs, hg⟩, rfl⟩) | ⟨p, ⟨hs, hg⟩, rfl⟩) |
    ⟨members, ⟨hs, hg⟩, rfl⟩
  · exact ⟨.greatest, by decide, rfl, by rwa [fails, hs]⟩
  · exact ⟨.least, by decide, rfl, by rwa [fails, hs]⟩
  · exact ⟨.pattern, by decide, rfl, by rwa [fails, hs]⟩
  · exact ⟨.member, by decide, rfl, by rwa [fails, hs]⟩

end Segment

/-- Whether a violation is reported by a custom rule that has the code of another check for
its name. -/
def Inquiry.Borrows : Inquiry → Prop
  | .custom _ _ _ r => r.name = Violation.requiredCode ∨ r.name = Violation.recordCode
  | _ => False

namespace Inspector

/-- What is reported by which check: by a value that is absent, by a built-in check that the
value fails, by a rule for whole records, or by a custom rule that is bound. -/
inductive Cause (i : Inspector) (now : Instant) : Inquiry → Violation → Prop
  | absent {place : Place} {value : Value} {nullable : Bool}
      (h : value.present? nullable = none) :
      i.Cause now (.required place value) (.required place.label)
  | builtin {β α : Type} {d : Dialect β α} {g : Gauge β α} {place : Place} {value : Value}
      {v : Violation} (hg : g.Measures d now value) (seg : Segment β α)
      (h : v ∈ seg.failures g place.label) : i.Cause now (.builtin place value v) v
  | record {place : Place} {tag : TypeTag} {fields : List Value} {model : String}
      {rule : OwnedRule} (label message : String) :
      i.Cause now (.record place tag fields model rule) ⟨label, message, Violation.recordCode⟩
  | custom {place : Place} {value : Value} {station : Station} {r : NamedRule}
      (hbinds : i.Binds station r) (message : String) :
      i.Cause now (.custom place value station r) ⟨place.label, message, r.name⟩

/-- The code of a violation tells which check has reported it. -/
structure Attributed (i : Inspector) (now : Instant) (q : Inquiry) (v : Violation) : Prop where
  absent : v.code = Violation.requiredCode → ∃ place value nullable,
    q = .required place value ∧ value.present? nullable = none
  builtin : ∀ b : Builtin, b ≠ .required → b.code? = some v.code → ∃ place value,
    q = .builtin place value v ∧ ∃ (β α : Type) (d : Dialect β α) (g : Gauge β α)
      (seg : Segment β α), g.Measures d now value ∧ v ∈ seg.failures g place.label ∧
        seg.fails g b = true
  record : v.code = Violation.recordCode → ∃ place tag fields model rule,
    q = .record place tag fields model rule
  custom : v.code ∉ Violation.ownCodes → ∃ place value station r,
    q = .custom place value station r ∧ r.name = v.code ∧ i.Binds station r ∧
      r.name ∈ i.ruleNames

variable {i : Inspector} {now : Instant} {settings : Settings} {steps : List Step}

theorem cause_of_mem_reports {r : Record} {q : Inquiry} {v : Violation}
    (h : (q, v) ∈ Transcript.reports ((i.terrain now).root r.tag 0 r.fields)) :
    i.Cause now q v := by
  obtain ⟨hq, hanswer⟩ := Transcript.mem_reports h
  cases origin_of_mem_root hq with
  | value hprompts =>
    cases hprompts with
    | absent hvalue habsent =>
      cases hanswer
      exact .absent habsent
    | builtin hvalue hg seg hv =>
      cases hanswer
      exact .builtin hg seg hv
    | custom hvalue hbinds =>
      obtain ⟨message, -, rfl⟩ := Inquiry.custom_answer_eq_some hanswer
      exact .custom hbinds message
    | mismatch | unregistered | tooDeep => cases hanswer
  | record hb hrule place fields =>
    rw [Inquiry.answer] at hanswer
    split at hanswer
    · cases hanswer
    · cases hanswer
      exact .record _ _
    · cases hanswer
  | foreign => cases hanswer

theorem attributed_absent {place : Place} {value : Value} {nullable : Bool}
    (h : value.present? nullable = none) :
    i.Attributed now (.required place value) (.required place.label) := by
  have hown : Builtin.required.code? = some Violation.requiredCode := rfl
  refine ⟨fun _ => ⟨_, _, _, rfl, h⟩, ?_, ?_, ?_⟩
  · intro b hb hcode
    exact absurd (Builtin.eq_of_code? hcode hown) hb
  · intro hrecord
    exact absurd hrecord Violation.requiredCode_ne_recordCode
  · intro hother
    exact absurd (Violation.mem_ownCodes_of_code? hown) hother

theorem attributed_builtin {β α : Type} {d : Dialect β α} {g : Gauge β α} {place : Place}
    {value : Value} {v : Violation} (hg : g.Measures d now value) {seg : Segment β α}
    (h : v ∈ seg.failures g place.label) : i.Attributed now (.builtin place value v) v := by
  obtain ⟨b, hb, hcode, hfails⟩ := Segment.exists_fails_of_mem_failures h
  refine ⟨?_, ?_, ?_, ?_⟩
  · intro habsent
    have hrequired : Builtin.required.code? = some v.code := congrArg some habsent.symm
    exact absurd (Builtin.eq_of_code? hcode hrequired) hb
  · intro b' _ hcode'
    cases Builtin.eq_of_code? hcode hcode'
    exact ⟨_, _, rfl, _, _, _, _, seg, hg, h, hfails⟩
  · intro hrecord
    rw [hrecord] at hcode
    exact absurd hcode b.code?_ne_recordCode
  · intro hother
    exact absurd (Violation.mem_ownCodes_of_code? hcode) hother

theorem attributed_record {place : Place} {tag : TypeTag} {fields : List Value}
    {model : String} {rule : OwnedRule} (label message : String) :
    i.Attributed now (.record place tag fields model rule)
      ⟨label, message, Violation.recordCode⟩ := by
  refine ⟨?_, ?_, fun _ => ⟨_, _, _, _, _, rfl⟩, ?_⟩
  · intro habsent
    exact absurd habsent.symm Violation.requiredCode_ne_recordCode
  · intro b hb hcode
    exact absurd hcode b.code?_ne_recordCode
  · intro hother
    exact absurd Violation.recordCode_mem_ownCodes hother

/-- The code of a custom rule tells that it has reported, if it is no code of another
check. -/
theorem attributed_custom_iff {place : Place} {value : Value} {station : Station}
    {r : NamedRule} (hbinds : i.Binds station r) (hname : RuleName r.name)
    (hlisted : r.name ∈ i.ruleNames) (message : String) :
    i.Attributed now (.custom place value station r) ⟨place.label, message, r.name⟩ ↔
      r.name ≠ Violation.requiredCode ∧ r.name ≠ Violation.recordCode := by
  constructor
  · intro h
    constructor
    · intro habsent
      obtain ⟨_, _, _, hq, -⟩ := h.absent habsent
      cases hq
    · intro hrecord
      obtain ⟨_, _, _, _, _, hq⟩ := h.record hrecord
      cases hq
  · rintro ⟨hrequired, hrecord⟩
    refine ⟨fun hcode => absurd hcode hrequired, ?_, fun hcode => absurd hcode hrecord,
      fun _ => ⟨_, _, _, _, rfl, rfl, hbinds, hlisted⟩⟩
    intro b hb hcode
    exact absurd hcode (hname.code?_ne hb)

/-- A code tells which check has reported, unless a custom rule has borrowed it. -/
theorem Cause.attributed_iff {q : Inquiry} {v : Violation} (h : i.Cause now q v)
    (hnames : ∀ station (r : NamedRule), i.Binds station r →
      RuleName r.name ∧ r.name ∈ i.ruleNames) :
    i.Attributed now q v ↔ ¬q.Borrows := by
  cases h with
  | absent habsent => exact iff_of_true (attributed_absent habsent) id
  | builtin hg seg hv => exact iff_of_true (attributed_builtin hg hv) id
  | record label message => exact iff_of_true (attributed_record label message) id
  | custom hbinds message =>
    obtain ⟨hname, hlisted⟩ := hnames _ _ hbinds
    rw [attributed_custom_iff hbinds hname hlisted, Inquiry.Borrows, not_or]

/-- What checks report, and by which inquiries. -/
theorem reports_of_violations {r : Record} {vs : Violations}
    (h : i.violations now r = .ok vs) :
    vs.items = (Transcript.reports ((i.terrain now).root r.tag 0 r.fields)).map (·.2) := by
  rw [violations_eq, Transcript.outcome] at h
  split at h
  · cases h
  · cases h
    exact Transcript.found_ofInquiries _

theorem reports_of_violation? {r : Record} {v : Violation}
    (h : i.violation? now r = .ok (some v)) :
    ∃ q rest, Transcript.reports ((i.terrain now).root r.tag 0 r.fields) = (q, v) :: rest := by
  have hfound : (i.transcript now r).found =
      (Transcript.reports ((i.terrain now).root r.tag 0 r.fields)).map (·.2) :=
    Transcript.found_ofInquiries _
  rw [violation?_eq, Transcript.first] at h
  cases hreports : Transcript.reports ((i.terrain now).root r.tag 0 r.fields) with
  | nil =>
    rw [hfound, hreports] at h
    cases hfault : (i.transcript now r).fault <;> rw [hfault] at h <;> cases h
  | cons x rest =>
    rw [hfound, hreports] at h
    cases h
    exact ⟨x.1, rest, rfl⟩

/-- A rule that is bound is listed under its name. -/
theorem mem_ruleNames_of_binds {station : Station} {r : NamedRule}
    (h : (after settings now steps).Binds station r) :
    r.name ∈ (after settings now steps).ruleNames := by
  obtain ⟨hname, tag, reg, hrule⟩ := ruleName_of_binds h
  obtain ⟨-, rule, hattempt⟩ :=
    RuleBook.isSome_lastAccepted?_iff.mp (Option.isSome_of_eq_some hrule)
  have hstep : .addRule r.name rule ∈ reg.before := mem_attempts_iff.mp hattempt
  have hsteps : .addRule r.name rule ∈ steps := by
    rw [reg.steps_eq]
    exact List.mem_append_left _ hstep
  rw [ruleNames, rules_after, RuleBook.mem_names_enterAll_iff]
  exact ⟨hname, rule, mem_attempts_iff.mpr hsteps⟩

/-- What a part is checked by. -/
theorem find?_part {name : String} (h : RuleName name) (rule : Rule) (now : Instant) :
    ∃ lex : Lexicon, lex.rules.find? name = some rule ∧
      (after {} now [.addRule name rule, .register (.part name)]).blueprints.find?
        ⟨2, "Part"⟩ = some (Enrolment.blueprint ⟨.part name, lex, []⟩) := by
  obtain ⟨lex, hfind, hparted⟩ := run_part (withSettings {}) now rule h rfl
  refine ⟨lex, hfind, ?_⟩
  rw [after, hparted, Roster.find?_insert, if_pos rfl]

/-- A rule reports under its own name on a part that calls it. -/
theorem mem_reports_part {name : String} (h : RuleName name) {rule : Rule}
    {text message : String} (hne : text ≠ "")
    (hrule : rule "label" (.text text) = .ok (some message)) (now time : Instant) :
    (.custom (.field .root "label") (.text text) (.scalar .text) ⟨name, rule⟩,
        ⟨"label", message, name⟩) ∈
      Transcript.reports (((after {} now [.addRule name rule, .register (.part name)]).terrain
        time).root ⟨2, "Part"⟩ 0 [.text text]) := by
  obtain ⟨lex, hfind, hpart⟩ := find?_part h rule now
  have hlevel : 0 < ((after {} now [.addRule name rule, .register (.part name)]).terrain
      time).limit := by
    show 0 < (after {} now [.addRule name rule, .register (.part name)]).settings.maxDepth
    rw [settings_after]
    decide
  have hlabel : Place.label (.field .root "label") = "label" := rfl
  rw [Terrain.root, Terrain.entry_of_find? hpart hlevel, h.fields_part hfind,
    Terrain.fields_cons, Terrain.agenda_text hne]
  simp [Transcript.reports, Inquiry.answer, hlabel, hrule]

/-- The codes of violations tell which check has failed: that a value is required, some
other check of the library that the value fails, a rule for whole records, or else the
custom rule of the name. It is otherwise for rules that were accepted under one of the two
codes that are no words of annotations, and for no other rules. -/
theorem codes_attributed_iff (settings : Settings) (now : Instant) (steps : List Step) :
    let i := after settings now steps
    ∀ (time : Instant) (r : Record),
      let reports := Transcript.reports ((i.terrain time).root r.tag 0 r.fields)
      (∀ vs, i.violations time r = .ok vs → vs.items = reports.map (·.2)) ∧
      (∀ v, i.violation? time r = .ok (some v) → ∃ q rest, reports = (q, v) :: rest) ∧
      ∀ q v, (q, v) ∈ reports →
        (i.Attributed time q v ↔ ¬q.Borrows) ∧ (q.Borrows → v.code ∈ i.ruleNames) := by
  intro i time r reports
  refine ⟨fun vs => reports_of_violations, fun v => reports_of_violation?, ?_⟩
  intro q v h
  have hcause : i.Cause time q v := cause_of_mem_reports h
  constructor
  · apply hcause.attributed_iff
    intro station rule hbinds
    exact ⟨(ruleName_of_binds hbinds).1, mem_ruleNames_of_binds hbinds⟩
  · intro hborrows
    cases hcause with
    | custom hbinds message => exact mem_ruleNames_of_binds hbinds
    | _ => exact hborrows.elim

/-- The code of a custom rule tells that this rule has reported. -/
theorem codes_attributed_iff_part :
    let rule : Rule := fun _ _ => .ok (some "label is odd")
    let i := after {} ⟨0⟩ [.addRule "odd" rule, .register (.part "odd")]
    ∃ q, (q, ⟨"label", "label is odd", "odd"⟩) ∈
        Transcript.reports ((i.terrain ⟨0⟩).root ⟨2, "Part"⟩ 0 [.text "b"]) ∧
      i.Attributed ⟨0⟩ q ⟨"label", "label is odd", "odd"⟩ := by
  intro rule i
  have hname : RuleName "odd" := by decide
  have hne : "b" ≠ "" := by decide
  have hrule : rule "label" (.text "b") = .ok (some "label is odd") := rfl
  have hreport := mem_reports_part hname hne hrule ⟨0⟩ ⟨0⟩
  obtain ⟨-, -, hcodes⟩ := codes_attributed_iff {} ⟨0⟩
    [.addRule "odd" rule, .register (.part "odd")] ⟨0⟩ ⟨⟨2, "Part"⟩, [.text "b"]⟩
  refine ⟨_, hreport, (hcodes _ _ hreport).1.mpr ?_⟩
  show ¬("odd" = Violation.requiredCode ∨ "odd" = Violation.recordCode)
  decide

/-- A rule can be accepted under the code of values that are missing, and then reports under
it on a value that is there. -/
theorem required_code_borrowed :
    ¬∀ (settings : Settings) (now : Instant) (steps : List Step) (time : Instant) (r : Record)
      (q : Inquiry) (v : Violation), (after settings now steps).isRegistered r.tag = true →
      (q, v) ∈ Transcript.reports
        (((after settings now steps).terrain time).root r.tag 0 r.fields) →
      (after settings now steps).Attributed time q v := by
  intro h
  let rule : Rule := fun _ _ => .ok (some "label is odd")
  let steps : List Step := [.addRule "required" rule, .register (.part "required")]
  have hname : RuleName "required" := by decide
  have hne : "b" ≠ "" := by decide
  have hrule : rule "label" (.text "b") = .ok (some "label is odd") := rfl
  have hregistered : (after {} ⟨0⟩ steps).isRegistered ⟨2, "Part"⟩ = true := by
    obtain ⟨lex, -, hpart⟩ := find?_part hname rule ⟨0⟩
    exact Option.isSome_of_eq_some hpart
  have hreport := mem_reports_part hname hne hrule ⟨0⟩ ⟨0⟩
  have hattributed := h {} ⟨0⟩ steps ⟨0⟩ ⟨⟨2, "Part"⟩, [.text "b"]⟩ _ _ hregistered hreport
  obtain ⟨_, _, _, hq, -⟩ := hattributed.absent rfl
  cases hq

end Inspector

end RecordValidation
