import RecordValidation.Proofs.BindingTime

/-!
What the names of rules are good for. The names that a book accepts are those that can
stand in annotations: a name between bars is read as one token, the token is bound to the
rule of the name, and the violations that the rule finds are reported under the name.
-/

namespace RecordValidation

open Annotation

theorem RuleName.of_lastRule? {steps : List Step} {name : String} {rule : Rule}
    (h : lastRule? steps name = some rule) : RuleName name :=
  (RuleBook.isSome_lastAccepted?_iff.mp (Option.isSome_of_eq_some h)).1

/-- A violation that a custom rule finds has the name of the rule for its code. -/
theorem Transcript.code_of_mem_reports {l : List Inquiry} {place : Place} {value : Value}
    {station : Station} {r : NamedRule} {v : Violation}
    (h : (.custom place value station r, v) ∈ reports l) : v.code = r.name := by
  obtain ⟨-, hanswer⟩ := mem_reports h
  obtain ⟨message, -, rfl⟩ := Inquiry.custom_answer_eq_some hanswer
  rfl

/-- Whether a constraint has the rules that some tokens call at stations, then a rule, and
then the rules that other tokens call. The rule is at the station to which the dives of the
tokens before it lead. -/
def Constraint.BindsBetween (c : Constraint) (rules : String → Option Rule)
    (stations : List Station) (before after : List Token) (r : NamedRule) : Prop :=
  ∃ station others, stations.drop (before.countP Token.isDive) = station :: others ∧
    c.bindings = calls rules stations before ++
      (station, r) :: calls rules (station :: others) after

/-- Wherever something can be checked, the name of a rule is bound to the rule. -/
theorem FieldPlan.bindsBetween_of_pieces {lex : Lexicon} {field : String} {type : FieldType}
    {text : String} (haccepted : (FieldDecl.checked field type text).Accepted lex) {name : String}
    (hname : RuleName name) {before after : List (List Char)}
    (hpieces : pieces '|' text.toList = before ++ name.toList :: after) {rule : Rule}
    (hrule : lex.rules.find? name = some rule)
    (hshape : type.shape.within ((before.map Token.ofChars).countP Token.isDive) ≠ .inert)
    (owner : TypeTag) :
    (FieldPlan.ofDecl lex owner (.checked field type text)).constraint.BindsBetween
      lex.rules.find? (type.shape.stations ((tokens text).countP Token.isDive))
      (before.map Token.ofChars) (after.map Token.ofChars) ⟨name, rule⟩ := by
  have htokens := hname.tokens_of_pieces hpieces
  have hne : text ≠ "" := by
    rintro rfl
    have hnil : tokens "" = [] := rfl
    rw [hnil] at htokens
    exact List.append_ne_nil_of_right_ne_nil _ (List.cons_ne_nil _ _) htokens.symm
  have hform := haccepted.resolve_left hne
  obtain ⟨station, others, hstation⟩ := hform.exists_station htokens hname.isDive_eq_false hshape
  have hcall : Token.call? lex.rules.find? ⟨name, none⟩ = some ⟨name, rule⟩ := by
    rw [hname.call?_eq, hrule, Option.map_some]
  refine ⟨station, others, hstation, ?_⟩
  rw [FieldPlan.bindings_ofDecl haccepted, FieldDecl.calls]
  generalize type.shape.stations _ = stations at hstation ⊢
  rw [htokens, calls_append, hstation,
    calls_cons_of_call? hname.isDive_eq_false hcall]

theorem mem_attempts_iff {steps : List Step} {name : String} {rule : Rule} :
    (name, rule) ∈ steps.filterMap Step.attempt? ↔ .addRule name rule ∈ steps := by
  rw [List.mem_filterMap]
  constructor
  · rintro ⟨s, hs, hattempt⟩
    cases s with
    | addRule name' rule' =>
      cases hattempt
      exact hs
    | _ => cases hattempt
  · intro hs
    exact ⟨_, hs, rfl⟩

namespace Inspector

variable {i : Inspector} {now : Instant} {settings : Settings} {steps : List Step}

theorem exists_addRule_iff {name : String} {rule : Rule} :
    (∃ j, i.addRule name rule = .ok j) ↔ RuleName name := by
  constructor
  · rintro ⟨j, h⟩
    by_contra hname
    rw [addRule, RuleBook.insert_of_not_ruleName hname] at h
    cases h
  · intro hname
    rw [addRule, RuleBook.insert_of_ruleName hname]
    exact ⟨_, rfl⟩

/-- A rule that is bound was accepted under its name. -/
theorem ruleName_of_binds {station : Station} {r : NamedRule}
    (h : (after settings now steps).Binds station r) :
    RuleName r.name ∧ ∃ (tag : TypeTag) (reg : Registration settings now steps tag),
      lastRule? reg.before r.name = some r.rule := by
  obtain ⟨tag, reg, decl, -, hmem⟩ := exists_call_of_binds h
  obtain ⟨t, -, hcall⟩ := FieldDecl.exists_token_of_mem_calls hmem
  have hrule := (Token.eq_of_call? hcall).2
  exact ⟨.of_lastRule? hrule, tag, reg, hrule⟩

theorem bindsBetween_of_register {t : RecordType} {j : Inspector}
    (h : (after settings now steps).register t = .ok j) {index : Nat} {field : String}
    {type : FieldType} {text : String} (hfield : t.fields[index]? = some (.checked field type text))
    {name : String} {rule : Rule} (hrule : lastRule? steps name = some rule)
    {before after : List (List Char)}
    (hpieces : pieces '|' text.toList = before ++ name.toList :: after)
    (hshape : type.shape.within ((before.map Token.ofChars).countP Token.isDive) ≠ .inert) :
    ∃ b plan, j.blueprints.find? t.tag = some b ∧ b.fields[index]? = some plan ∧
      plan.constraint.BindsBetween (lastRule? steps)
        (type.shape.stations ((tokens text).countP Token.isDive))
        (before.map Token.ofChars) (after.map Token.ofChars) ⟨name, rule⟩ := by
  obtain ⟨-, haccepted, rfl⟩ := register_eq_ok_iff.mp h
  have hrules : (Inspector.after settings now steps).lexicon.rules.find? = lastRule? steps :=
    find?_rules_after settings now steps
  have hbinds := FieldPlan.bindsBetween_of_pieces
    (haccepted _ (List.mem_of_getElem? hfield)) (.of_lastRule? hrule) hpieces (hrules ▸ hrule)
    hshape t.tag
  rw [hrules] at hbinds
  let e : Enrolment := ⟨t, (Inspector.after settings now steps).lexicon, []⟩
  refine ⟨e.blueprint, _, ?_, ?_, hbinds⟩
  · rw [Roster.find?_insert, if_pos rfl]
  · exact (List.getElem?_map ..).trans (congrArg _ hfield)

/-- The names that are accepted for rules can be used and mean only these rules. Such a name
is read as one token wherever it stands between bars, is bound to the rule that was last
accepted under it, and is the code of what this rule reports; and every rule that is bound
has such a name. The book lists the names that were accepted, each of them once. -/
theorem accepted_names_usable (settings : Settings) (now : Instant) (steps : List Step) :
    let i := after settings now steps
    (∀ name rule, (∃ j, i.addRule name rule = .ok j) ↔ RuleName name) ∧
    (∀ (name text : String) before after, RuleName name →
      pieces '|' text.toList = before ++ name.toList :: after →
        tokens text =
            before.map Token.ofChars ++ ⟨name, none⟩ :: after.map Token.ofChars ∧
          Token.isDive ⟨name, none⟩ = false) ∧
    (∀ (t : RecordType) j (index : Nat) field type text name rule before after,
      i.register t = .ok j → t.fields[index]? = some (.checked field type text) →
      lastRule? steps name = some rule →
      pieces '|' text.toList = before ++ name.toList :: after →
      type.shape.within ((before.map Token.ofChars).countP Token.isDive) ≠ .inert →
        ∃ b plan, j.blueprints.find? t.tag = some b ∧ b.fields[index]? = some plan ∧
          plan.constraint.BindsBetween (lastRule? steps)
            (type.shape.stations ((tokens text).countP Token.isDive))
            (before.map Token.ofChars) (after.map Token.ofChars) ⟨name, rule⟩) ∧
    (∀ time (r : Record) place value station rule v,
      (.custom place value station rule, v) ∈
          Transcript.reports ((i.terrain time).root r.tag 0 r.fields) → v.code = rule.name) ∧
    (∀ station rule, i.Binds station rule →
      RuleName rule.name ∧ ∃ (tag : TypeTag) (reg : Registration settings now steps tag),
        lastRule? reg.before rule.name = some rule.rule) ∧
    (∀ name, name ∈ i.ruleNames ↔ RuleName name ∧ ∃ rule, .addRule name rule ∈ steps) ∧
    i.ruleNames.Pairwise (· < ·) ∧
    i.rules.size =
      (((steps.filterMap Step.attempt?).map (·.1)).filter (RuleName ·)).dedup.length := by
  intro i
  have hrules : i.rules = RuleBook.empty.enterAll (steps.filterMap Step.attempt?) :=
    rules_after settings now steps
  refine ⟨fun name rule => exists_addRule_iff, ?_, ?_, ?_, ?_, ?_, ?_, ?_⟩
  · intro name text before after hname hpieces
    exact ⟨hname.tokens_of_pieces hpieces, hname.isDive_eq_false⟩
  · intro t j index field type text name rule before after h hfield hrule hpieces hshape
    exact bindsBetween_of_register h hfield hrule hpieces hshape
  · intro time r place value station rule v h
    exact Transcript.code_of_mem_reports h
  · intro station rule h
    exact ruleName_of_binds h
  · intro name
    rw [ruleNames, hrules, RuleBook.mem_names_enterAll_iff]
    simp only [mem_attempts_iff]
  · rw [ruleNames, hrules]
    exact RuleBook.names_enterAll_pairwise _
  · rw [hrules]
    exact RuleBook.size_enterAll _

/-- A name with a comma and a blank in it is bound to its rule for the elements of a
sequence. A name with a bar in it is refused. -/
theorem accepted_names_usable_elements :
    let rule : Rule := fun _ _ => .ok none
    let steps : List Step := [.addRule "odd, even" rule, .addRule "odd|even" rule]
    let t : RecordType :=
      ⟨⟨1, "Box"⟩, [.checked "sizes" (.sequence (.integer (.signed 32))) "dive|odd, even"]⟩
    (¬∃ j, (after {} ⟨0⟩ steps).addRule "odd|even" rule = .ok j) ∧
    "odd, even" ∈ (after {} ⟨0⟩ steps).ruleNames ∧
    ∃ j b plan, (after {} ⟨0⟩ steps).register t = .ok j ∧ j.blueprints.find? t.tag = some b ∧
      b.fields[0]? = some plan ∧
      plan.constraint.BindsBetween (lastRule? steps) [.sequence, .scalar .integer] [.dive] []
        ⟨"odd, even", rule⟩ := by
  intro rule steps t
  have hname : RuleName "odd, even" := by decide
  have hrule : lastRule? steps "odd, even" = some rule := by
    have hsecond : ¬("odd|even" = "odd, even" ∧ RuleName "odd|even") := by decide
    show RuleBook.lastAccepted? [("odd, even", rule), ("odd|even", rule)] "odd, even" = _
    rw [RuleBook.lastAccepted?_cons, RuleBook.lastAccepted?_cons, if_neg hsecond,
      if_pos ⟨rfl, hname⟩]
    rfl
  have hfind : (after {} ⟨0⟩ steps).lexicon.rules.find? "odd, even" = some rule :=
    (congrFun (find?_rules_after {} ⟨0⟩ steps) "odd, even").trans hrule
  have haccepted : ∀ decl ∈ t.fields, decl.Accepted (after {} ⟨0⟩ steps).lexicon := by
    have htokens : tokens "dive|odd, even" = [] ++ .dive :: [⟨"odd, even", none⟩] := by
      decide +kernel
    have helement := hname.levelForm hfind (.scalar .integer)
    refine List.forall_mem_singleton.mpr (.inr ?_)
    rw [htokens]
    exact .elements _ [] _ Station.levelForm_nil (.scalar .integer _ helement)
  obtain ⟨j, hregister⟩ : ∃ j, (after {} ⟨0⟩ steps).register t = .ok j :=
    ⟨_, register_eq_ok_iff.mpr ⟨rfl, haccepted, rfl⟩⟩
  have hpieces : pieces '|' "dive|odd, even".toList =
      ["dive".toList] ++ "odd, even".toList :: [] := by decide +kernel
  obtain ⟨hiff, -, hbound, -, -, hlisted, -, -⟩ := accepted_names_usable {} ⟨0⟩ steps
  obtain ⟨b, plan, hb, hplan, hbinds⟩ :=
    hbound t j 0 _ _ _ _ _ _ _ hregister rfl hrule hpieces (by decide +kernel)
  refine ⟨?_, ?_, j, b, plan, hregister, hb, hplan, hbinds⟩
  · intro h
    exact absurd ((hiff "odd|even" rule).mp h) (by decide)
  · exact (hlisted "odd, even").mpr ⟨hname, rule, List.mem_cons_self⟩

end Inspector

end RecordValidation
