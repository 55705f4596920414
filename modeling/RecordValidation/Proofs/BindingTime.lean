import RecordValidation.Proofs.Calls
import RecordValidation.Proofs.History
import RecordValidation.Proofs.Provenance

/-!
The time at which rules are bound. A token that calls a rule stands for the rule that had
its name when the type was registered. Rules that come later make no difference to the
type, so that types which were registered at different times can mean different rules by
one name.
-/

namespace RecordValidation

open Annotation

namespace Registration

variable {settings : Settings} {now : Instant} {steps : List Step} {tag : TypeTag}

/-- The custom rules of a type are those that its annotations called when it was
registered. -/
theorem bindings_fields (reg : Registration settings now steps tag) :
    reg.enrolment.blueprint.fields.map (·.constraint.bindings) =
      reg.type.fields.map (·.calls (lastRule? reg.before)) := by
  have hrules : reg.enrolment.lexicon.rules.find? = lastRule? reg.before :=
    Inspector.find?_rules_after settings now reg.before
  rw [← hrules]
  exact Enrolment.bindings_fields reg.accepted

end Registration

theorem Transcript.ofInquiries_singleton (q : Inquiry) :
    ofInquiries [q] = ofAnswer q.answer := by
  have hend : ofInquiries [q] = (ofAnswer q.answer).andThen {} := rfl
  rw [hend]
  cases q.answer with
  | error f => rfl
  | ok found => cases found <;> rfl

namespace Inspector

variable {i j : Inspector} {now : Instant} {settings : Settings} {steps : List Step}

/-- Every rule at a station of a type was called by an annotation of the type. -/
theorem exists_call_of_binds {station : Station} {r : NamedRule}
    (h : (after settings now steps).Binds station r) :
    ∃ (tag : TypeTag) (reg : Registration settings now steps tag),
      ∃ decl ∈ reg.type.fields, (station, r) ∈ decl.calls (lastRule? reg.before) := by
  obtain ⟨tag, b, hb, plan, hplan, hmem⟩ := h
  obtain ⟨reg, rfl⟩ := exists_registration hb
  have hbindings : plan.constraint.bindings ∈
      reg.enrolment.blueprint.fields.map (·.constraint.bindings) := List.mem_map_of_mem hplan
  rw [reg.bindings_fields] at hbindings
  obtain ⟨decl, hdecl, hcalls⟩ := List.mem_map.mp hbindings
  rw [← hcalls] at hmem
  exact ⟨tag, reg, decl, hdecl, hmem⟩

theorem binds_of_mem_root {r : Record} {place : Place} {value : Value} {station : Station}
    {rule : NamedRule}
    (h : .custom place value station rule ∈ (i.terrain now).root r.tag 0 r.fields) :
    i.Binds station rule := by
  cases origin_of_mem_root h with
  | value hprompts =>
    cases hprompts with
    | custom hvalue hbinds => exact hbinds

/-- Inspectors that give the same answers about records and types. -/
structure AnswersAlike (i j : Inspector) : Prop where
  violations : ∀ now r, i.violations now r = j.violations now r
  violation? : ∀ now r, i.violation? now r = j.violation? now r
  violationsOf : ∀ now value, i.violationsOf now value = j.violationsOf now value
  violationOf? : ∀ now value, i.violationOf? now value = j.violationOf? now value
  fieldNames? : ∀ tag, i.fieldNames? tag = j.fieldNames? tag

theorem answersAlike_of_blueprints_eq (hblueprints : i.blueprints = j.blueprints)
    (hsettings : i.settings = j.settings) : i.AnswersAlike j := by
  have hinspect : ∀ extent now r, i.inspect extent now r = j.inspect extent now r := by
    intro extent now r
    rw [inspect, inspect, scope, scope, hblueprints, hsettings]
  have hviolations : ∀ now r, i.violations now r = j.violations now r := hinspect .all
  have hviolation : ∀ now r, i.violation? now r = j.violation? now r := by
    intro now r
    rw [violation?, violation?, hinspect]
  refine ⟨hviolations, hviolation, ?_, ?_, ?_⟩
  · intro now value
    simp only [violationsOf, hviolations]
  · intro now value
    simp only [violationOf?, hviolation]
  · intro tag
    rw [fieldNames?, fieldNames?, hblueprints]

/-- Attempts to enter rules, whether or not they are refused, change nothing but the book. -/
theorem run_addRules_eq (i : Inspector) (now : Instant) (attempts : List (String × Rule)) :
    (i.run now (attempts.map fun attempt => .addRule attempt.1 attempt.2)).1 =
      { i with rules := i.rules.enterAll attempts } := by
  induction attempts generalizing i with
  | nil => rfl
  | cons attempt rest ih =>
    rw [List.map_cons, run_cons, ih, step_addRule_eq]
    rfl

/-- The fields of a registered type are checked by the same rules ever after. -/
theorem fields_after_append {tag : TypeTag} {b : Blueprint}
    (h : (after settings now steps).blueprints.find? tag = some b) (later : List Step) :
    ∃ b', (after settings now (steps ++ later)).blueprints.find? tag = some b' ∧
      b'.fields = b.fields := by
  rw [after_append, find?_run h now later]
  exact ⟨_, rfl, rfl⟩

end Inspector

/-- A type with a field for a rule to be applied to, and nothing else. -/
def RecordType.part (rule : String) : RecordType where
  tag := ⟨2, "Part"⟩
  fields := [.checked "label" .text rule]

/-- A type with such a field, and a part. -/
def RecordType.whole (rule : String) : RecordType where
  tag := ⟨1, "Whole"⟩
  fields := [.checked "label" .text rule, .checked "part" (.record ⟨2, "Part"⟩) "req"]

def Record.whole (label partLabel : String) : Record where
  tag := ⟨1, "Whole"⟩
  fields := [.text label, .record ⟨2, "Part"⟩ [.text partLabel]]

/-- The part is registered with one rule, and the whole with another one of its name. -/
def Step.redefinition (name : String) (old new : Rule) : List Step :=
  [.addRule name old, .register (.part name), .addRule name new, .register (.whole name)]

theorem Station.levelForm_singleton {station : Station} {lex : Lexicon} {t : Token}
    (h : station.Admits lex t) : station.LevelForm lex [t] :=
  levelForm_append_singleton.mpr ⟨levelForm_nil, h, fun _ _ => rfl⟩

namespace RuleName

variable {name : String} {lex : Lexicon} {rule : Rule}

/-- The token of a rule can stand alone in a level at each station. -/
theorem levelForm (h : RuleName name) (hrule : lex.rules.find? name = some rule)
    (station : Station) : station.LevelForm lex [⟨name, none⟩] := by
  have hcontains : lex.rules.contains name = true := by
    show (lex.rules.find? name).isSome = true
    rw [hrule, Option.isSome_some]
  exact Station.levelForm_singleton (.custom name h.ofName?_eq_none hcontains)

theorem accepted (h : RuleName name) (hrule : lex.rules.find? name = some rule) :
    (FieldDecl.checked "label" .text name).Accepted lex := by
  have hform := h.levelForm hrule (.scalar .text)
  refine .inr ?_
  rw [h.tokens_self]
  exact .scalar .text _ hform

theorem ofText_eq (h : RuleName name) (hrule : lex.rules.find? name = some rule) :
    Constraint.ofText lex (.scalar .text) name =
      .scalar (.text { custom := [⟨name, rule⟩] }) := by
  have hsegment : Segment.ofTokens .text lex [⟨name, none⟩] = { custom := [⟨name, rule⟩] } := by
    have hbind : lex.rules.bind? name = some ⟨name, rule⟩ := by
      rw [RuleBook.bind?, hrule, Option.map_some]
    have happend : Segment.ofTokens .text lex ([] ++ [⟨name, none⟩]) = _ :=
      Segment.ofTokens_append_custom h.ofName?_eq_none
    rw [List.nil_append, hbind] at happend
    exact happend
  rw [Constraint.ofText, if_neg h.ne_empty, h.tokens_self, Constraint.ofTokens,
    ScalarConstraint.ofTokens, hsegment]

/-- A part is checked by the rule that it calls. -/
theorem fields_part (h : RuleName name) (hrule : lex.rules.find? name = some rule) :
    (Enrolment.blueprint ⟨.part name, lex, []⟩).fields =
      [⟨⟨2, "Part"⟩, "label", .scalar (.text { custom := [⟨name, rule⟩] })⟩] := by
  have hlabel := h.ofText_eq hrule
  simp only [Enrolment.blueprint, RecordType.part, List.map_cons, List.map_nil,
    FieldPlan.ofDecl, FieldType.shape, hlabel]

end RuleName

theorem Annotation.tokens_req : tokens "req" = [⟨Builtin.required.name, none⟩] := by
  decide +kernel

theorem FieldDecl.accepted_record_req (lex : Lexicon) (name : String) (tag : TypeTag) :
    (checked name (.record tag) "req").Accepted lex := by
  refine .inr ?_
  rw [tokens_req]
  exact .record tag _ (Station.levelForm_singleton .required)

theorem Constraint.ofText_record_req (lex : Lexicon) (tag : TypeTag) :
    ofText lex (.record tag) "req" = .record { required := true } := by
  rw [ofText, if_neg (by decide), tokens_req]
  rfl

namespace Terrain

variable {t : Terrain} {place : Place} {tag : TypeTag} {level : Nat}

theorem entry_of_find? {b : Blueprint} (hb : t.blueprints.find? tag = some b)
    (hlevel : level < t.limit) (body : Blueprint → List Inquiry) :
    t.entry place tag level body = body b := by
  rw [entry, hb]
  exact if_neg (Nat.not_le.mpr hlevel)

theorem fields_cons (b : Blueprint) (name : String) (c : Constraint) (v : Value)
    (values : List Value) (plans : List FieldPlan) :
    t.fields b place tag level (v :: values) (⟨tag, name, c⟩ :: plans) =
      t.agenda c false (place.field name) level v ++ t.fields b place tag level values plans := by
  rw [fields]
  simp only [ne_eq, not_true, if_false, ite_isUnchecked]

/-- A text that is not empty has a rule applied to it, if the rule is all that there is to
check it by. -/
theorem agenda_text {text : String} (hne : text ≠ "") (r : NamedRule) :
    t.agenda (.scalar (.text { custom := [r] })) false place level (.text text) =
      [.custom place (.text text) (.scalar .text) r] := by
  have hpresent : (Value.text text).present? false = some (.text text) := by
    simp [Value.present?, Value.isZero, hne]
  simp only [Terrain.agenda, Terrain.plain, ifPresent, hpresent]
  rfl

end Terrain

namespace Inspector

variable {i : Inspector} {now : Instant} {name : String}

theorem step_register_eq_of_accepted {t : RecordType} (hnew : i.blueprints.find? t.tag = none)
    (haccepted : ∀ decl ∈ t.fields, decl.Accepted i.lexicon) :
    (i.step now (.register t)).1 =
      { i with
        blueprints := i.blueprints.insert t.tag (Enrolment.blueprint ⟨t, i.lexicon, []⟩) } := by
  have hfresh : i.isRegistered t.tag = false := by
    rw [isRegistered, Roster.contains, hnew, Option.isSome_none]
  rw [step_register_of_ok (register_eq_ok_iff.mpr ⟨hfresh, haccepted, rfl⟩)]

/-- A rule is entered, and then a type is registered. -/
theorem run_addRule_register {t : RecordType} (i : Inspector) (now : Instant) (name : String)
    (rule : Rule) (hnew : i.blueprints.find? t.tag = none)
    (haccepted : ∀ decl ∈ t.fields, decl.Accepted ⟨i.rules.enter (name, rule), i.settings⟩) :
    (i.run now [.addRule name rule, .register t]).1 =
      { i with
        rules := i.rules.enter (name, rule)
        blueprints := i.blueprints.insert t.tag
          (Enrolment.blueprint ⟨t, ⟨i.rules.enter (name, rule), i.settings⟩, []⟩) } := by
  show ((i.step now (.addRule name rule)).1.step now (.register t)).1 = _
  rw [step_addRule_eq]
  exact step_register_eq_of_accepted hnew haccepted

/-- What the part is checked by. -/
theorem run_part (i : Inspector) (now : Instant) (rule : Rule) (h : RuleName name)
    (hpart : i.blueprints.find? ⟨2, "Part"⟩ = none) :
    ∃ lex : Lexicon, lex.rules.find? name = some rule ∧
      (i.run now [.addRule name rule, .register (.part name)]).1 =
        { i with
          rules := lex.rules
          blueprints := i.blueprints.insert ⟨2, "Part"⟩
            (Enrolment.blueprint ⟨.part name, lex, []⟩) } := by
  have hfind := i.rules.find?_enter_self h rule
  let lex : Lexicon := ⟨i.rules.enter (name, rule), i.settings⟩
  have haccepted : ∀ decl ∈ (RecordType.part name).fields, decl.Accepted lex :=
    List.forall_mem_singleton.mpr (h.accepted hfind)
  exact ⟨lex, hfind, run_addRule_register i now name rule hpart haccepted⟩

/-- What the part and the whole are checked by. -/
theorem find?_run_redefinition (i : Inspector) (now : Instant) (old new : Rule)
    (h : RuleName name) (hpart : i.blueprints.find? ⟨2, "Part"⟩ = none)
    (hwhole : i.blueprints.find? ⟨1, "Whole"⟩ = none) :
    let j := (i.run now (Step.redefinition name old new)).1
    j.settings = i.settings ∧
    (∃ lex : Lexicon, lex.rules.find? name = some old ∧ j.blueprints.find? ⟨2, "Part"⟩ =
      some (Enrolment.blueprint ⟨.part name, lex, []⟩)) ∧
    ∃ lex : Lexicon, lex.rules.find? name = some new ∧ j.blueprints.find? ⟨1, "Whole"⟩ =
      some (Enrolment.blueprint ⟨.whole name, lex, []⟩) := by
  obtain ⟨lex, hold, hparted⟩ := run_part i now old h hpart
  have hnew := lex.rules.find?_enter_self h new
  let lex' : Lexicon := ⟨lex.rules.enter (name, new), i.settings⟩
  have haccepted : ∀ decl ∈ (RecordType.whole name).fields, decl.Accepted lex' := by
    refine List.forall_mem_cons.mpr ⟨h.accepted hnew, ?_⟩
    exact List.forall_mem_singleton.mpr (FieldDecl.accepted_record_req lex' "part" _)
  have hfresh : (i.blueprints.insert ⟨2, "Part"⟩
      (Enrolment.blueprint ⟨.part name, lex, []⟩)).find? ⟨1, "Whole"⟩ = none := by
    rw [Roster.find?_insert, if_neg (by decide), hwhole]
  intro j
  have hj : j = ((i.run now [.addRule name old, .register (.part name)]).1.run now
      [.addRule name new, .register (.whole name)]).1 := by
    show (i.run now ([.addRule name old, .register (.part name)] ++ _)).1 = _
    rw [run_append]
  rw [hj, hparted, run_addRule_register _ now name new hfresh haccepted]
  refine ⟨rfl, ⟨lex, hold, ?_⟩, lex', hnew, ?_⟩
  · have hne : (RecordType.whole name).tag ≠ ⟨2, "Part"⟩ := by
      intro htag
      cases htag
    rw [Roster.find?_insert, if_neg hne, Roster.find?_insert, if_pos rfl]
  · exact (Roster.find?_insert ..).trans (if_pos rfl)

/-- A survey of the whole applies the new rule to it and the old one to its part. -/
theorem root_whole {old new : Rule} {lex lex' : Lexicon} (h : RuleName name)
    (hold : lex.rules.find? name = some old) (hnew : lex'.rules.find? name = some new)
    (hpart : i.blueprints.find? ⟨2, "Part"⟩ = some (Enrolment.blueprint ⟨.part name, lex, []⟩))
    (hwhole : i.blueprints.find? ⟨1, "Whole"⟩ = some (Enrolment.blueprint ⟨.whole name, lex', []⟩))
    (hdepth : 2 ≤ i.settings.maxDepth) {label partLabel : String} (hlabel : label ≠ "")
    (hpartLabel : partLabel ≠ "") (time : Instant) :
    (i.terrain time).root ⟨1, "Whole"⟩ 0 (Record.whole label partLabel).fields =
      [.custom (.field .root "label") (.text label) (.scalar .text) ⟨name, new⟩,
       .custom (.field (.field .root "part") "label") (.text partLabel) (.scalar .text)
        ⟨name, old⟩] := by
  have hwholeFields : (Enrolment.blueprint ⟨.whole name, lex', []⟩).fields =
      [⟨⟨1, "Whole"⟩, "label", .scalar (.text { custom := [⟨name, new⟩] })⟩,
       ⟨⟨1, "Whole"⟩, "part", .record { required := true }⟩] := by
    have hlabel := h.ofText_eq hnew
    have hpart := Constraint.ofText_record_req lex' ⟨2, "Part"⟩
    simp only [Enrolment.blueprint, RecordType.whole, List.map_cons, List.map_nil,
      FieldPlan.ofDecl, FieldType.shape, hlabel, hpart]
  have hfirst : 0 < (i.terrain time).limit := Nat.lt_of_lt_of_le Nat.two_pos hdepth
  have hsecond : 1 < (i.terrain time).limit := hdepth
  rw [Terrain.root, Terrain.entry_of_find? hwhole hfirst, hwholeFields, Record.whole,
    Terrain.fields_cons, Terrain.agenda_text hlabel, Terrain.fields_cons, Terrain.agenda,
    Terrain.entry_of_find? hpart hsecond, h.fields_part hold, Terrain.fields_cons,
    Terrain.agenda_text hpartLabel]
  rfl

/-- Rules are bound when a type is registered. Each token that calls a rule stands for the
rule which was accepted last under its name before the type was registered, and surveys
apply no other rules. Whatever rules are added later, all answers about the types that are
registered stay the same, while the types that come later call the later rules. So a
record and a part of it can have different rules under one name. -/
theorem rules_bound_at_registration (settings : Settings) (now : Instant) (steps : List Step) :
    let i := after settings now steps
    (∀ tag b, i.blueprints.find? tag = some b →
      ∃ reg : Registration settings now steps tag,
        b.fields.map (·.constraint.bindings) =
          reg.type.fields.map (·.calls (lastRule? reg.before))) ∧
    (∀ time (r : Record) place value station rule,
      .custom place value station rule ∈ (i.terrain time).root r.tag 0 r.fields →
        ∃ (tag : TypeTag) (reg : Registration settings now steps tag),
          ∃ decl ∈ reg.type.fields, (station, rule) ∈ decl.calls (lastRule? reg.before)) ∧
    (∀ attempts : List (String × Rule),
      (i.run now (attempts.map fun attempt => .addRule attempt.1 attempt.2)).1.AnswersAlike i) ∧
    (∀ later t j, (after settings now (steps ++ later)).register t = .ok j →
      (∃ b, j.blueprints.find? t.tag = some b ∧
        b.fields.map (·.constraint.bindings) =
          t.fields.map (·.calls (lastRule? (steps ++ later)))) ∧
      ∀ tag b, i.blueprints.find? tag = some b →
        ∃ b', j.blueprints.find? tag = some b' ∧ b'.fields = b.fields) ∧
    ∀ name old new label partLabel time, RuleName name →
      i.blueprints.find? ⟨2, "Part"⟩ = none → i.blueprints.find? ⟨1, "Whole"⟩ = none →
      label ≠ "" → partLabel ≠ "" → 2 ≤ settings.maxDepth →
      (i.run now (Step.redefinition name old new)).1.violations time (.whole label partLabel) =
        ((Transcript.ofFinding (⟨"label", ·, name⟩) (.rule "label" name)
            (new "label" (.text label))).andThen
          (.ofFinding (⟨"part.label", ·, name⟩) (.rule "part.label" name)
            (old "part.label" (.text partLabel)))).outcome := by
  intro i
  refine ⟨?_, ?_, ?_, ?_, ?_⟩
  · intro tag b h
    obtain ⟨reg, rfl⟩ := exists_registration h
    exact ⟨reg, reg.bindings_fields⟩
  · intro time r place value station rule h
    exact exists_call_of_binds (binds_of_mem_root h)
  · intro attempts
    rw [run_addRules_eq]
    exact answersAlike_of_blueprints_eq rfl rfl
  · intro later t j h
    have hkeeps {tag : TypeTag} {b : Blueprint} (hb : i.blueprints.find? tag = some b) :
        ∃ b', j.blueprints.find? tag = some b' ∧ b'.fields = b.fields := by
      obtain ⟨b', hb', hfields⟩ := fields_after_append hb later
      exact ⟨b', find?_register hb' h, hfields⟩
    obtain ⟨-, haccepted, hj⟩ := register_eq_ok_iff.mp h
    let e : Enrolment := ⟨t, (after settings now (steps ++ later)).lexicon, []⟩
    refine ⟨⟨e.blueprint, ?_, ?_⟩, fun tag b => hkeeps⟩
    · rw [hj, Roster.find?_insert, if_pos rfl]
    · rw [← find?_rules_after settings now (steps ++ later)]
      exact Enrolment.bindings_fields (e := e) haccepted
  · intro name old new label partLabel time hname hpart hwhole hlabel hpartLabel hdepth
    obtain ⟨hsettings, ⟨lex, hold, hpart'⟩, lex', hnew, hwhole'⟩ :=
      find?_run_redefinition i now old new hname hpart hwhole
    have hmax : 2 ≤ (i.run now (Step.redefinition name old new)).1.settings.maxDepth := by
      rw [hsettings, settings_after]
      exact hdepth
    have hroot := root_whole hname hold hnew hpart' hwhole' hmax hlabel hpartLabel time
    have htranscript : (i.run now (Step.redefinition name old new)).1.transcript time
        (.whole label partLabel) = _ := congrArg Transcript.ofInquiries hroot
    have hlabelPath : (Place.field .root "label").path? = some "label" := rfl
    have hpartPath : (Place.field (.field .root "part") "label").path? = some "part.label" := rfl
    rw [violations_eq, htranscript, Transcript.ofInquiries, Transcript.ofInquiries_singleton,
      ofAnswer_custom hlabelPath, ofAnswer_custom hpartPath]

/-- Two rules of one name in a survey, and a third one that is too late. -/
theorem rules_bound_at_registration_whole :
    let old : Rule := fun _ _ => .ok (some "has the old rule")
    let new : Rule := fun _ _ => .ok (some "has the new rule")
    let late : Rule := fun _ _ => .ok none
    let steps := Step.redefinition "odd" old new
    let answer : Except Fault Violations := .ok ⟨[⟨"label", "has the new rule", "odd"⟩,
      ⟨"part.label", "has the old rule", "odd"⟩]⟩
    (after {} ⟨0⟩ steps).violations ⟨0⟩ (.whole "a" "b") = answer ∧
    ((after {} ⟨0⟩ steps).run ⟨0⟩ [.addRule "odd" late]).1.violations ⟨0⟩ (.whole "a" "b") = answer ∧
    ∃ (b : Blueprint) (reg : Registration {} ⟨0⟩ steps ⟨2, "Part"⟩),
      (after {} ⟨0⟩ steps).blueprints.find? ⟨2, "Part"⟩ = some b ∧
        b.fields.map (·.constraint.bindings) =
          reg.type.fields.map (·.calls (lastRule? reg.before)) := by
  intro old new late steps answer
  have hname : RuleName "odd" := by decide
  have hempty : ∀ tag, (after {} ⟨0⟩ []).blueprints.find? tag = none := fun _ => rfl
  obtain ⟨-, -, -, -, hwalk⟩ := rules_bound_at_registration {} ⟨0⟩ []
  have hanswer : (after {} ⟨0⟩ steps).violations ⟨0⟩ (.whole "a" "b") = answer :=
    hwalk "odd" old new "a" "b" ⟨0⟩ hname (hempty _) (hempty _) (by decide) (by decide) (by decide)
  obtain ⟨hbound, -, hlate, -, -⟩ := rules_bound_at_registration {} ⟨0⟩ steps
  have hsame := (hlate [("odd", late)]).violations ⟨0⟩ (.whole "a" "b")
  have hpart : ((after {} ⟨0⟩ steps).blueprints.find? ⟨2, "Part"⟩).isSome = true := by
    obtain ⟨-, ⟨lex, -, hpart⟩, -⟩ :=
      find?_run_redefinition (after {} ⟨0⟩ []) ⟨0⟩ old new hname (hempty _) (hempty _)
    exact congrArg Option.isSome hpart
  obtain ⟨b, hb⟩ := Option.isSome_iff_exists.mp hpart
  obtain ⟨reg, hreg⟩ := hbound ⟨2, "Part"⟩ b hb
  exact ⟨hanswer, hsame.trans hanswer, b, reg, hb, hreg⟩

end Inspector

end RecordValidation
