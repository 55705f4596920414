import RecordValidation.Proofs.TokenOrder
import RecordValidation.Proofs.Weaker

/-!
More rules. A token that is put into a level of an annotation makes the annotation stronger:
with it all is asked that is asked without it. So a rule more can only add to what is found.
-/

namespace RecordValidation

open Annotation

namespace Annotation

theorem levels_cons {t : Token} (ht : t.isDive = false) {rest first : List Token}
    {others : List (List Token)} (h : levels rest = first :: others) :
    levels (t :: rest) = (t :: first) :: others := by
  simp only [levels, h, ht, Bool.false_eq_true, if_false]

-- By induction on what stands before the token: a dive there begins a level of its own, and
-- any other token comes in front of the first level on both sides.
/-- A token that is put in leaves all levels as they are but for the one that it is put in. -/
theorem levelwise_insert {extra : Token} (hextra : extra.isDive = false)
    (left right : List Token) :
    Levelwise List.Sublist (left ++ right) (left ++ extra :: right) := by
  induction left with
  | nil =>
    obtain ⟨first, others, hlevels⟩ := List.exists_cons_of_ne_nil (levels_ne_nil right)
    rw [Levelwise, List.nil_append, List.nil_append, levels_cons hextra hlevels, hlevels]
    exact .cons (List.sublist_cons_self extra first) (List.forall₂_same.mpr fun l _ => .refl l)
  | cons t left ih =>
    rw [Levelwise, List.cons_append, List.cons_append]
    cases ht : t.isDive with
    | true =>
      rw [Token.isDive_iff.mp ht]
      have hdive : ∀ rest, levels (Token.dive :: rest) = [] :: levels rest :=
        levels_append_dive (List.forall_mem_nil _)
      rw [hdive, hdive]
      exact .cons (.refl _) ih
    | false =>
      obtain ⟨first, others, hlevels⟩ := List.exists_cons_of_ne_nil
        (levels_ne_nil (left ++ right))
      obtain ⟨first', others', hlevels'⟩ := List.exists_cons_of_ne_nil
        (levels_ne_nil (left ++ extra :: right))
      rw [Levelwise, hlevels, hlevels'] at ih
      obtain ⟨hfirst, hothers⟩ := List.forall₂_cons.mp ih
      rw [levels_cons ht hlevels, levels_cons ht hlevels']
      exact .cons (hfirst.cons_cons t) hothers

end Annotation

section

variable {lex : Lexicon} {station : Station} {ts ts' : List Token}

theorem Segment.ofTokens_weaker {β α : Type} {d : Dialect β α}
    (hform : station.LevelForm lex ts') (h : ts.Sublist ts') :
    (ofTokens d lex ts).Weaker (ofTokens d lex ts') where
  required hany := by
    obtain ⟨t, ht, hrequired⟩ := List.any_eq_true.mp hany
    exact List.any_eq_true.mpr ⟨t, h.subset ht, hrequired⟩
  least := mem_ruleArgument?_of_subset (hform.once _) h.subset
  greatest := mem_ruleArgument?_of_subset (hform.once _) h.subset
  pattern := mem_ruleArgument?_of_subset (hform.once _) h.subset
  members := mem_ruleArgument?_of_subset (hform.once _) h.subset
  custom := (h.filter _).filterMap _

theorem ScalarConstraint.ofTokens_weaker (hform : station.LevelForm lex ts')
    (h : ts.Sublist ts') (s : Scalar) : (ofTokens lex ts s).Weaker (ofTokens lex ts' s) := by
  cases s with
  | text => exact .text (Segment.ofTokens_weaker hform h)
  | integer => exact .integer (Segment.ofTokens_weaker hform h)
  | float => exact .float (Segment.ofTokens_weaker hform h)
  | time => exact .time (Segment.ofTokens_weaker hform h)

/-- What is left of well-formed tokens if some are taken out of their levels is read as a
weaker constraint. -/
theorem Constraint.ofTokens_weaker {shape : Shape} (hform : WellFormed lex shape ts')
    (h : Levelwise List.Sublist ts ts') :
    (ofTokens lex shape ts).Weaker (ofTokens lex shape ts') := by
  induction hform generalizing ts with
  | inert ts' => exact .unchecked _
  | scalar s ts' hlevel =>
    obtain ⟨-, hts⟩ := h.of_flat hlevel.flat
    exact .scalar (ScalarConstraint.ofTokens_weaker hlevel hts s)
  | sequence element ts' hlevel =>
    obtain ⟨hflat, hts⟩ := h.of_flat hlevel.flat
    rw [ofTokens, ofTokens, splitDive_of_flat hflat, splitDive_of_flat hlevel.flat]
    exact .sequence (Segment.ofTokens_weaker hlevel hts) (.unchecked _)
  | elements element head' tail' hlevel htail' ih =>
    obtain ⟨head, tail, hflat, rfl, hhead, htail⟩ := h.of_append hlevel.flat
    rw [ofTokens, ofTokens, splitDive_append hflat, splitDive_append hlevel.flat]
    exact .sequence (Segment.ofTokens_weaker hlevel hhead) (ih htail)
  | record tag ts' hlevel =>
    obtain ⟨hflat, hts⟩ := h.of_flat hlevel.flat
    rw [ofTokens, ofTokens, splitDive_of_flat hflat, splitDive_of_flat hlevel.flat]
    exact .record (Segment.ofTokens_weaker hlevel hts)
  | dived tag head' hlevel =>
    obtain ⟨head, tail, hflat, rfl, hhead, -⟩ := h.of_append hlevel.flat
    rw [ofTokens, ofTokens, splitDive_append hflat, splitDive_append hlevel.flat]
    exact .record (Segment.ofTokens_weaker hlevel hhead)
  | pointer inner s hcore head' tail' hlevel htail' ih =>
    obtain ⟨head, tail, hflat, rfl, hhead, htail⟩ := h.of_append hlevel.flat
    have hscalar := WellFormed.scalar_iff.mp htail'
    obtain ⟨-, htail⟩ := htail.of_flat hscalar.flat
    rw [ofTokens_pointer hcore hflat, ofTokens_pointer hcore hlevel.flat]
    exact .pointer (Segment.ofTokens_weaker hlevel hhead)
      (ScalarConstraint.ofTokens_weaker hscalar htail s)
  | optional inner ts' hplain hform ih =>
    have hplain' : Flat ts ∨ ∀ s, inner.core ≠ .scalar s :=
      hplain.imp_left fun hflat => (h.of_flat hflat).1
    rw [ofTokens_optional_of_plain hplain', ofTokens_optional_of_plain hplain]
    exact ih h

end

/-- A field whose annotation has a token more is the stronger of the two. -/
theorem FieldPlan.ofDecl_weaker {lex : Lexicon} {owner : TypeTag} {name : String}
    {type : FieldType} {rules rules' : String} {left right : List Token} {extra : Token}
    (hrules : tokens rules = left ++ right) (hrules' : tokens rules' = left ++ extra :: right)
    (hextra : extra.isDive = false)
    (haccepted : (FieldDecl.checked name type rules').Accepted lex) :
    (FieldPlan.ofDecl lex owner (.checked name type rules)).Weaker
      (.ofDecl lex owner (.checked name type rules')) := by
  refine ⟨rfl, rfl, ?_⟩
  rw [FieldPlan.ofDecl, FieldPlan.ofDecl, Constraint.ofText, Constraint.ofText]
  by_cases hempty : rules = ""
  · rw [if_pos hempty]
    exact .unchecked _
  have hempty' : rules' ≠ "" := by
    rintro rfl
    cases left <;> cases hrules'
  have hform := haccepted.resolve_left hempty'
  have hlevels : Levelwise List.Sublist (tokens rules) (tokens rules') := by
    rw [hrules, hrules']
    exact levelwise_insert hextra left right
  rw [if_neg hempty, if_neg hempty']
  exact Constraint.ofTokens_weaker hform hlevels

/-- A type with a token more in the annotation of one of its fields has the stronger
blueprint. -/
theorem Enrolment.blueprint_weaker {lex : Lexicon} {name : String} {type : FieldType}
    {rules rules' : String} {left right : List Token} {extra : Token}
    (hrules : tokens rules = left ++ right) (hrules' : tokens rules' = left ++ extra :: right)
    (hextra : extra.isDive = false)
    (haccepted : (FieldDecl.checked name type rules').Accepted lex) (tag : TypeTag)
    (before after : List FieldDecl) :
    (Enrolment.blueprint ⟨⟨tag, before ++ .checked name type rules :: after⟩, lex, []⟩).Weaker
      (Enrolment.blueprint ⟨⟨tag, before ++ .checked name type rules' :: after⟩, lex, []⟩) := by
  have hrefl : ∀ decls : List FieldDecl, List.Forall₂ FieldPlan.Weaker
      (decls.map (.ofDecl lex tag)) (decls.map (.ofDecl lex tag)) :=
    fun decls => List.forall₂_same.mpr fun plan _ => .refl plan
  refine ⟨rfl, ?_, rfl⟩
  simp only [Enrolment.blueprint, List.map_append, List.map_cons]
  exact List.rel_append (hrefl before)
    (.cons (FieldPlan.ofDecl_weaker hrules hrules' hextra haccepted) (hrefl after))

namespace Inspector

/-- A rule more hides no violation. Where a record type is registered with a token put in
anywhere in the annotation of a field, all violations are found that would be found without
it, in the same order; and whatever ends with a fault without it ends with one still. What was
known before and what happens later is the same in both cases, and can be anything. -/
theorem more_rules_hide_nothing {i j k : Inspector} {tag : TypeTag}
    {before after : List FieldDecl} {name : String} {type : FieldType} {rules rules' : String}
    {left right : List Token} {extra : Token} (hrules : tokens rules = left ++ right)
    (hrules' : tokens rules' = left ++ extra :: right) (hextra : extra.isDive = false)
    (hj : i.register ⟨tag, before ++ .checked name type rules :: after⟩ = .ok j)
    (hk : i.register ⟨tag, before ++ .checked name type rules' :: after⟩ = .ok k)
    (now : Instant) (later : List Step) (time : Instant) (r : Record) :
    (∀ vs vs', (j.run now later).1.violations time r = .ok vs →
      (k.run now later).1.violations time r = .ok vs' → vs.items.Sublist vs'.items) ∧
    ∀ f, (j.run now later).1.violations time r = .error f →
      ∃ f', (k.run now later).1.violations time r = .error f' := by
  have hweaker : j.Weaker k := by
    obtain ⟨-, -, rfl⟩ := register_eq_ok_iff.mp hj
    obtain ⟨-, haccepted, rfl⟩ := register_eq_ok_iff.mp hk
    have hfield : (FieldDecl.checked name type rules').Accepted i.lexicon :=
      haccepted _ (List.mem_append_right before List.mem_cons_self)
    have hblueprint := Enrolment.blueprint_weaker hrules hrules' hextra hfield tag before after
    exact ⟨rfl, (Roster.Weaker.refl i.blueprints).insert hblueprint tag⟩
  exact (hweaker.run now later).violations time r

end Inspector

/-- A record type that leads to itself, with an annotation for names. -/
def RecordType.tree (rules : String) : RecordType where
  tag := ⟨7, "Tree"⟩
  fields := [
    .checked "name" .text rules,
    .checked "children" (.sequence (.record ⟨7, "Tree"⟩)) "max:1|dive"]

def Record.tree : Record where
  tag := ⟨7, "Tree"⟩
  fields := [.text "", .sequence [
    .record ⟨7, "Tree"⟩ [.text "abcd", .sequence []],
    .record ⟨7, "Tree"⟩ [.text "", .sequence []]]]

namespace Inspector

/-- With a rule more for names, the empty ones are missing, also further down. All else is
found as it was without it. -/
theorem more_rules_hide_nothing_tree :
    let later : List Step := [.addRecordRule ⟨7, "Tree"⟩ fun _ => .ok (some "is a tree")]
    ∃ j k vs vs', register {} (.tree "max:3") = .ok j ∧
      register {} (.tree "req|max:3") = .ok k ∧
      (j.run ⟨0⟩ later).1.violations ⟨0⟩ .tree = .ok vs ∧
      (k.run ⟨0⟩ later).1.violations ⟨0⟩ .tree = .ok vs' ∧
      vs.items.Sublist vs'.items ∧ vs.length = 5 ∧ vs'.length = 7 := by
  intro later
  have hrules : tokens "max:3" = [] ++ [⟨"max", some "3"⟩] := by decide +kernel
  have hrules' : tokens "req|max:3" = [] ++ ⟨"req", none⟩ :: [⟨"max", some "3"⟩] := by
    decide +kernel
  have htree : ∀ rules, RecordType.tree rules = ⟨⟨7, "Tree"⟩, [] ++ .checked "name" .text rules ::
      [.checked "children" (.sequence (.record ⟨7, "Tree"⟩)) "max:1|dive"]⟩ := fun _ => rfl
  obtain ⟨j, hj⟩ : ∃ j, register {} (.tree "max:3") = .ok j := (isSome_toOption _).mp (by cbv)
  obtain ⟨k, hk⟩ : ∃ k, register {} (.tree "req|max:3") = .ok k :=
    (isSome_toOption _).mp (by cbv)
  obtain ⟨hfound, -⟩ := more_rules_hide_nothing hrules hrules' rfl (htree _ ▸ hj) (htree _ ▸ hk)
    ⟨0⟩ later ⟨0⟩ .tree
  have hvs : (run {} ⟨0⟩ (.register (.tree "max:3") :: later)).1.violations ⟨0⟩ .tree = .ok ⟨[
      ⟨"children", "children can not have more than 1 elements", "max"⟩,
      ⟨"children[0].name", "children[0].name can not be longer than 3 characters", "max"⟩,
      ⟨"children[0]", "is a tree", "record"⟩, ⟨"children[1]", "is a tree", "record"⟩,
      ⟨"Tree", "is a tree", "record"⟩]⟩ := by cbv
  have hvs' : (run {} ⟨0⟩ (.register (.tree "req|max:3") :: later)).1.violations ⟨0⟩ .tree =
      .ok ⟨[.required "name",
        ⟨"children", "children can not have more than 1 elements", "max"⟩,
        ⟨"children[0].name", "children[0].name can not be longer than 3 characters", "max"⟩,
        ⟨"children[0]", "is a tree", "record"⟩, .required "children[1].name",
        ⟨"children[1]", "is a tree", "record"⟩, ⟨"Tree", "is a tree", "record"⟩]⟩ := by cbv
  rw [run_cons, step_register_of_ok hj] at hvs
  rw [run_cons, step_register_of_ok hk] at hvs'
  exact ⟨j, k, _, _, hj, hk, hvs, hvs', hfound _ _ hvs hvs', rfl, rfl⟩

end Inspector

end RecordValidation
