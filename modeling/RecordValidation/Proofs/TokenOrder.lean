import RecordValidation.Proofs.Pointers
import RecordValidation.Proofs.Printing

/-!
The order of tokens. Built-in rules are checked in an order of their own, so it makes no
difference where their tokens stand in a level: neither to whether an annotation is accepted
nor to what is found by it. Only custom rules are applied in the order of their tokens.
-/

namespace RecordValidation

open Annotation

/-- What can be found in one place only is found wherever it stands. -/
theorem find?_eq_some_of_countP_le_one {α : Type} {p : α → Bool} {l : List α} {a : α}
    (honce : l.countP p ≤ 1) (hmem : a ∈ l) (ha : p a = true) : l.find? p = some a := by
  induction l with
  | nil => cases hmem
  | cons x rest ih =>
    by_cases hx : p x = true
    · have hrest : rest.countP p = 0 := by
        rw [List.countP_cons_of_pos hx] at honce
        omega
      rcases List.mem_cons.mp hmem with rfl | hmem
      · exact List.find?_cons_of_pos hx
      · exact absurd ha (List.countP_eq_zero.mp hrest a hmem)
    · rw [List.countP_cons_of_neg hx] at honce
      rw [List.find?_cons_of_neg hx]
      rcases List.mem_cons.mp hmem with rfl | hmem
      · exact absurd ha hx
      · exact ih honce hmem

namespace Annotation

theorem levels_of_flat {ts : List Token} (h : Flat ts) : levels ts = [ts] := by
  rw [levels_eq_splitOn, List.splitOn_eq_singleton (flat_iff.mp h)]

theorem levels_append_dive {head : List Token} (h : Flat head) (tail : List Token) :
    levels (head ++ Token.dive :: tail) = head :: levels tail := by
  rw [levels_eq_splitOn, List.splitOn_append_cons_self_of_not_mem (flat_iff.mp h),
    levels_eq_splitOn]

theorem levels_ne_nil (ts : List Token) : levels ts ≠ [] := by
  rw [levels_eq_splitOn]
  exact List.splitOn_ne_nil Token.dive ts

/-- Tokens whose levels are in a relation, each with the one at its place. -/
def Levelwise (R : List Token → List Token → Prop) (ts ts' : List Token) : Prop :=
  List.Forall₂ R (levels ts) (levels ts')

namespace Levelwise

variable {R : List Token → List Token → Prop} {ts ts' head' tail' : List Token}

theorem of_flat (h : Levelwise R ts ts') (hflat : Flat ts') : Flat ts ∧ R ts ts' := by
  rw [Levelwise, levels_of_flat hflat] at h
  rcases flat_or_eq_append ts with hts | ⟨head, tail, hhead, rfl⟩
  · rw [levels_of_flat hts] at h
    obtain ⟨hR, -⟩ := List.forall₂_cons.mp h
    exact ⟨hts, hR⟩
  · rw [levels_append_dive hhead] at h
    obtain ⟨-, hnil⟩ := List.forall₂_cons.mp h
    exact absurd (List.forall₂_nil_right_iff.mp hnil) (levels_ne_nil tail)

theorem of_append (h : Levelwise R ts (head' ++ Token.dive :: tail')) (hflat : Flat head') :
    ∃ head tail, Flat head ∧ ts = head ++ Token.dive :: tail ∧ R head head' ∧
      Levelwise R tail tail' := by
  rw [Levelwise, levels_append_dive hflat] at h
  rcases flat_or_eq_append ts with hts | ⟨head, tail, hhead, rfl⟩
  · rw [levels_of_flat hts] at h
    obtain ⟨-, hnil⟩ := List.forall₂_cons.mp h
    exact absurd (List.forall₂_nil_left_iff.mp hnil) (levels_ne_nil tail')
  · rw [levels_append_dive hhead] at h
    obtain ⟨hR, htail⟩ := List.forall₂_cons.mp h
    exact ⟨head, tail, hhead, rfl, hR, htail⟩

theorem symm (hR : ∀ {l l'}, R l l' → R l' l) (h : Levelwise R ts ts') : Levelwise R ts' ts :=
  (List.Forall₂.imp (fun _ _ => hR) h).flip

end Levelwise

/-- Levels with the same tokens, of which those that no built-in rule has the name of stand
in the same order. -/
structure Reordered (ts ts' : List Token) : Prop where
  perm : ts.Perm ts'
  others_eq : (ts.filter fun t => (Builtin.ofName? t.name).isNone) =
    ts'.filter fun t => (Builtin.ofName? t.name).isNone

theorem Reordered.symm {ts ts' : List Token} (h : Reordered ts ts') : Reordered ts' ts :=
  ⟨h.perm.symm, h.others_eq.symm⟩

end Annotation

section

variable {lex : Lexicon} {station : Station} {ts ts' : List Token}

theorem Station.LevelForm.of_perm (h : station.LevelForm lex ts') (hperm : ts.Perm ts') :
    station.LevelForm lex ts where
  admits t ht := h.admits t (hperm.subset ht)
  once b := by
    rw [hperm.countP_eq]
    exact h.once b

/-- Where a rule stands once at most, more tokens do not change its argument. -/
theorem mem_ruleArgument?_of_subset {γ : Type} {read : String → Option γ} {b : Builtin}
    (honce : ts'.countP (·.is b) ≤ 1) (hsub : ts ⊆ ts') :
    ∀ a ∈ ruleArgument? read b ts, a ∈ ruleArgument? read b ts' := by
  intro a ha
  cases hfind : ts.find? (·.is b) with
  | none =>
    rw [ruleArgument?, hfind] at ha
    cases ha
  | some t =>
    have hmem : t ∈ ts' := hsub (List.mem_of_find?_eq_some hfind)
    have hb := List.find?_some hfind
    have hfind' : ts'.find? (·.is b) = some t :=
      find?_eq_some_of_countP_le_one honce hmem hb
    rw [ruleArgument?, hfind] at ha
    rw [ruleArgument?, hfind']
    exact ha

theorem ruleArgument?_eq_of_perm {γ : Type} (read : String → Option γ) {b : Builtin}
    (honce : ts'.countP (·.is b) ≤ 1) (hperm : ts.Perm ts') :
    ruleArgument? read b ts = ruleArgument? read b ts' := by
  have honce' : ts.countP (·.is b) ≤ 1 := by rwa [hperm.countP_eq]
  refine Option.ext fun a => ⟨?_, ?_⟩
  · exact mem_ruleArgument?_of_subset honce hperm.subset a
  · exact mem_ruleArgument?_of_subset honce' hperm.symm.subset a

/-- A level is read as the same segment in any order of its built-in rules. -/
theorem Segment.ofTokens_eq_of_reordered {β α : Type} {d : Dialect β α}
    (hform : station.LevelForm lex ts') (h : Reordered ts ts') :
    ofTokens d lex ts = ofTokens d lex ts' := by
  have hrequired : ts.any (·.is .required) = ts'.any (·.is .required) := h.perm.any_eq
  simp only [ofTokens, hrequired, h.others_eq,
    ruleArgument?_eq_of_perm _ (hform.once _) h.perm]

theorem ScalarConstraint.ofTokens_eq_of_reordered (hform : station.LevelForm lex ts')
    (h : Reordered ts ts') (s : Scalar) : ofTokens lex ts s = ofTokens lex ts' s := by
  cases s <;> simp only [ofTokens, Segment.ofTokens_eq_of_reordered hform h]

namespace Constraint

/-- Tokens are well formed in any order of the built-in rules in their levels, and are read
as the same constraint. -/
theorem ofTokens_eq_of_reordered {shape : Shape} (hform : WellFormed lex shape ts')
    (h : Levelwise Reordered ts ts') :
    WellFormed lex shape ts ∧ ofTokens lex shape ts = ofTokens lex shape ts' := by
  induction hform generalizing ts with
  | inert ts' => exact ⟨.inert ts, rfl⟩
  | scalar s ts' hlevel =>
    obtain ⟨-, hts⟩ := h.of_flat hlevel.flat
    refine ⟨.scalar s ts (hlevel.of_perm hts.perm), ?_⟩
    rw [ofTokens, ScalarConstraint.ofTokens_eq_of_reordered hlevel hts, ofTokens]
  | sequence element ts' hlevel =>
    obtain ⟨hflat, hts⟩ := h.of_flat hlevel.flat
    refine ⟨.sequence element ts (hlevel.of_perm hts.perm), ?_⟩
    rw [ofTokens, ofTokens, splitDive_of_flat hflat, splitDive_of_flat hlevel.flat]
    dsimp only
    rw [Segment.ofTokens_eq_of_reordered hlevel hts]
  | elements element head' tail' hlevel htail' ih =>
    obtain ⟨head, tail, hflat, rfl, hhead, htail⟩ := h.of_append hlevel.flat
    obtain ⟨hform, heq⟩ := ih htail
    refine ⟨.elements element head tail (hlevel.of_perm hhead.perm) hform, ?_⟩
    rw [ofTokens, ofTokens, splitDive_append hflat, splitDive_append hlevel.flat]
    dsimp only
    rw [Segment.ofTokens_eq_of_reordered hlevel hhead, heq]
  | record tag ts' hlevel =>
    obtain ⟨hflat, hts⟩ := h.of_flat hlevel.flat
    refine ⟨.record tag ts (hlevel.of_perm hts.perm), ?_⟩
    rw [ofTokens, ofTokens, splitDive_of_flat hflat, splitDive_of_flat hlevel.flat,
      Segment.ofTokens_eq_of_reordered hlevel hts]
  | dived tag head' hlevel =>
    obtain ⟨head, tail, hflat, rfl, hhead, htail⟩ := h.of_append hlevel.flat
    obtain ⟨-, hnil⟩ := htail.of_flat (List.forall_mem_nil _)
    obtain rfl := hnil.perm.eq_nil
    refine ⟨.dived tag head (hlevel.of_perm hhead.perm), ?_⟩
    rw [ofTokens, ofTokens, splitDive_append hflat, splitDive_append hlevel.flat,
      Segment.ofTokens_eq_of_reordered hlevel hhead]
  | pointer inner s hcore head' tail' hlevel htail' ih =>
    obtain ⟨head, tail, hflat, rfl, hhead, htail⟩ := h.of_append hlevel.flat
    obtain ⟨hform, heq⟩ := ih htail
    refine ⟨.pointer inner s hcore head tail (hlevel.of_perm hhead.perm) hform, ?_⟩
    rw [ofTokens_pointer hcore hflat, ofTokens_pointer hcore hlevel.flat,
      Segment.ofTokens_eq_of_reordered hlevel hhead, scalar.inj heq]
  | optional inner ts' hplain hform ih =>
    have hplain' : Flat ts ∨ ∀ s, inner.core ≠ .scalar s :=
      hplain.imp_left fun hflat => (h.of_flat hflat).1
    obtain ⟨hform, heq⟩ := ih h
    refine ⟨.optional inner ts hplain' hform, ?_⟩
    rw [ofTokens_optional_of_plain hplain', ofTokens_optional_of_plain hplain, heq]

end Constraint

end

namespace Constraint

variable {lex : Lexicon} {shape : Shape} {ts ts' : List Token} {c : Constraint}

theorem compile_of_reordered (h : Levelwise Reordered ts ts') (hc : compile lex shape ts' = .ok c) :
    compile lex shape ts = .ok c := by
  obtain ⟨hform', rfl⟩ := (compile_eq_ok_iff shape).mp hc
  obtain ⟨hform, heq⟩ := ofTokens_eq_of_reordered hform' h
  exact (compile_eq_ok_iff shape).mpr ⟨hform, heq.symm⟩

/-- The order of built-in rules within levels does not matter: tokens are accepted in any
order of these or in none, and a check by them comes to the same in any order, wherever a
survey stands when it begins. -/
theorem builtin_order_irrelevant (lex : Lexicon) (shape : Shape)
    (h : Levelwise Reordered ts ts') :
    ((∃ c, compile lex shape ts = .ok c) ↔ ∃ c', compile lex shape ts' = .ok c') ∧
    ∀ c c', compile lex shape ts = .ok c → compile lex shape ts' = .ok c' →
      ∀ (scope : Scope) (nullable : Bool) (label : String) (value : Value) (survey : Survey),
        scope.check c nullable label value survey = scope.check c' nullable label value survey := by
  have hback : Levelwise Reordered ts' ts := h.symm Reordered.symm
  constructor
  · constructor
    · rintro ⟨c, hc⟩
      exact ⟨c, compile_of_reordered hback hc⟩
    · rintro ⟨c', hc'⟩
      exact ⟨c', compile_of_reordered h hc'⟩
  · intro c c' hc hc' scope nullable label value survey
    have hc'' : compile lex shape ts = .ok c' := compile_of_reordered h hc'
    rw [hc] at hc''
    cases hc''
    rfl

/-- A lexicon with two rules, which remark on whatever they are given. -/
def remarkLexicon : Lexicon where
  rules := ⟨⟨[("odd", fun label _ => .ok (some (label ++ " is odd"))),
    ("rare", fun label _ => .ok (some (label ++ " is rare")))]⟩⟩
  settings := {}

/-- The same rules in two orders, for a list and for its elements. The two custom rules keep
theirs. -/
theorem builtin_order_irrelevant_list :
    let ts := tokens "rare|min:3|odd|req|dive|max:2|odd|req"
    let ts' := tokens "req|rare|odd|min:3|dive|req|odd|max:2"
    let scope : Scope := ⟨.empty, .all, 64, ⟨0⟩⟩
    Levelwise Reordered ts ts' ∧
    ∃ c c', compile remarkLexicon (.sequence (.scalar .text)) ts = .ok c ∧
      compile remarkLexicon (.sequence (.scalar .text)) ts' = .ok c' ∧
      scope.check c' false "tags" (.sequence [.text "", .text "abc"]) {} = .ok () ⟨0, [
        ⟨"tags", "tags must have at least 3 elements", "min"⟩,
        ⟨"tags", "tags is rare", "rare"⟩, ⟨"tags", "tags is odd", "odd"⟩,
        .required "tags[0]",
        ⟨"tags[1]", "tags[1] can not be longer than 2 characters", "max"⟩,
        ⟨"tags[1]", "tags[1] is odd", "odd"⟩]⟩ := by
  intro ts ts' scope
  have htokens : ts = [⟨"rare", none⟩, ⟨"min", some "3"⟩, ⟨"odd", none⟩, ⟨"req", none⟩,
      .dive, ⟨"max", some "2"⟩, ⟨"odd", none⟩, ⟨"req", none⟩] := by decide +kernel
  have htokens' : ts' = [⟨"req", none⟩, ⟨"rare", none⟩, ⟨"odd", none⟩, ⟨"min", some "3"⟩,
      .dive, ⟨"req", none⟩, ⟨"odd", none⟩, ⟨"max", some "2"⟩] := by decide +kernel
  have hreordered : Levelwise Reordered ts ts' := by
    rw [htokens, htokens']
    refine .cons ⟨?_, ?_⟩ (.cons ⟨?_, ?_⟩ .nil)
    all_goals decide +kernel
  obtain ⟨c, hc⟩ : ∃ c, compile remarkLexicon (.sequence (.scalar .text)) ts = .ok c := by
    rw [htokens]
    exact (isSome_toOption _).mp (by cbv)
  obtain ⟨haccepted, hcheck⟩ := builtin_order_irrelevant remarkLexicon
    (.sequence (.scalar .text)) hreordered
  obtain ⟨c', hc'⟩ := haccepted.mp ⟨c, hc⟩
  refine ⟨hreordered, c, c', hc, hc', ?_⟩
  rw [← hcheck c c' hc hc']
  rw [((compile_eq_ok_iff _).mp hc).2, htokens]
  cbv

end Constraint

end RecordValidation
