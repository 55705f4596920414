import Mathlib
import RecordValidation.Blueprint

/-!
Lexicons that agree. What annotations are compiled to depends on the settings and on
the rules that are called by the names of their tokens, and on no other rules.
-/

namespace RecordValidation

/-- Lexicons that make no difference to some tokens. -/
structure Lexicon.Agree (lex lex' : Lexicon) (tokens : List Token) : Prop where
  settings : lex.settings = lex'.settings
  find?_rules : ∀ t ∈ tokens, lex.rules.find? t.name = lex'.rules.find? t.name

theorem Lexicon.Agree.mono {lex lex' : Lexicon} {tokens tokens' : List Token}
    (h : lex.Agree lex' tokens) (hsub : tokens' ⊆ tokens) : lex.Agree lex' tokens' :=
  ⟨h.settings, fun t ht => h.find?_rules t (hsub ht)⟩

theorem Annotation.subset_of_splitDive {tokens head : List Token} {tail : Option (List Token)}
    (h : splitDive tokens = (head, tail)) :
    head ⊆ tokens ∧ ∀ rest, tail = some rest → rest ⊆ tokens := by
  induction tokens generalizing head with
  | nil =>
    cases h
    exact ⟨List.Subset.refl _, nofun⟩
  | cons t others ih =>
    rw [splitDive] at h
    split at h
    · cases h
      refine ⟨List.nil_subset _, fun rest hrest => ?_⟩
      cases hrest
      exact List.subset_cons_self t others
    · cases h
      obtain ⟨hhead, htail⟩ := ih rfl
      refine ⟨List.cons_subset_cons t hhead, fun rest hrest => ?_⟩
      exact List.Subset.trans (htail rest hrest) (List.subset_cons_self t others)

section

variable {lex lex' : Lexicon} {tokens : List Token}

namespace Segment

variable {β α : Type} {d : Dialect β α}

theorem resolve_eq_of_agree {t : Token} (h : lex.Agree lex' tokens) (ht : t ∈ tokens) :
    resolve lex t = resolve lex' t := by
  unfold resolve RuleBook.bind?
  rw [h.find?_rules t ht, h.settings]

theorem compileFrom_eq_of_agree (h : lex.Agree lex' tokens) (s : Segment β α) :
    compileFrom d lex s tokens = compileFrom d lex' s tokens := by
  induction tokens generalizing s with
  | nil => rfl
  | cons t rest ih =>
    have hadd : s.add d lex t = s.add d lex' t := by
      unfold add
      rw [resolve_eq_of_agree h List.mem_cons_self]
    have hrest := ih (h.mono (List.subset_cons_self t rest))
    rw [compileFrom, compileFrom, hadd]
    split
    · exact hrest _
    · rfl

theorem compile_eq_of_agree (h : lex.Agree lex' tokens) :
    compile d lex tokens = compile d lex' tokens :=
  compileFrom_eq_of_agree h {}

end Segment

theorem ScalarConstraint.compile_eq_of_agree (h : lex.Agree lex' tokens) (s : Scalar) :
    compile lex tokens s = compile lex' tokens s := by
  cases s <;> rw [compile, compile, Segment.compile_eq_of_agree h]

namespace Constraint

theorem compilePointer_eq_of_agree (h : lex.Agree lex' tokens) (target : Scalar) :
    compilePointer lex target tokens = compilePointer lex' target tokens := by
  unfold compilePointer
  cases hsplit : Annotation.splitDive tokens with
  | mk head tail =>
    obtain ⟨hhead, htail⟩ := Annotation.subset_of_splitDive hsplit
    have htail' : tail.getD [] ⊆ tokens := by
      cases tail with
      | none => exact List.nil_subset _
      | some rest => exact htail rest rfl
    dsimp only
    rw [Segment.compile_eq_of_agree (h.mono hhead),
      ScalarConstraint.compile_eq_of_agree (h.mono htail')]

theorem compileRecord_eq_of_agree (h : lex.Agree lex' tokens) :
    compileRecord lex tokens = compileRecord lex' tokens := by
  unfold compileRecord
  cases hsplit : Annotation.splitDive tokens with
  | mk head tail =>
    obtain ⟨hhead, -⟩ := Annotation.subset_of_splitDive hsplit
    have hcompile := Segment.compile_eq_of_agree (d := .record) (h.mono hhead)
    rcases tail with _ | _ | ⟨t, rest⟩
    · exact congrArg (Except.map Constraint.record) hcompile
    · exact congrArg (Except.map Constraint.record) hcompile
    · rfl

theorem compile_eq_of_agree (h : lex.Agree lex' tokens) (shape : Shape) :
    compile lex shape tokens = compile lex' shape tokens := by
  induction shape generalizing tokens with
  | scalar s => rw [compile, compile, ScalarConstraint.compile_eq_of_agree h]
  | optional inner ih =>
    rw [compile, compile, ih h]
    cases inner.core.scalar? with
    | none => rfl
    | some s =>
      dsimp only
      rw [compilePointer_eq_of_agree h]
  | sequence element ih =>
    rw [compile, compile]
    cases hsplit : Annotation.splitDive tokens with
    | mk head tail =>
      obtain ⟨hhead, htail⟩ := Annotation.subset_of_splitDive hsplit
      dsimp only
      rw [Segment.compile_eq_of_agree (h.mono hhead)]
      cases tail with
      | none => rfl
      | some rest =>
        dsimp only
        rw [ih (h.mono (htail rest rfl))]
  | record tag => exact compileRecord_eq_of_agree h
  | inert => rfl

theorem ofAnnotation_eq_of_agree {text : String} (h : lex.Agree lex' <| Annotation.tokens text)
    (shape : Shape) : ofAnnotation lex shape text = ofAnnotation lex' shape text := by
  unfold ofAnnotation
  split
  · rfl
  · exact compile_eq_of_agree h shape

end Constraint

end

/-- The tokens of the annotation of a field. -/
def FieldDecl.ruleTokens : FieldDecl → List Token
  | .checked _ _ rules => Annotation.tokens rules
  | .skipped _ => []

/-- The tokens of all annotations of a record type. -/
def RecordType.ruleTokens (t : RecordType) : List Token := t.fields.flatMap FieldDecl.ruleTokens

namespace Blueprint

variable {lex lex' : Lexicon}

theorem compileField_eq_of_agree {decl : FieldDecl} (h : lex.Agree lex' decl.ruleTokens)
    (owner : TypeTag) : compileField lex owner decl = compileField lex' owner decl := by
  cases decl with
  | skipped name => rfl
  | checked name type rules =>
    rw [compileField, compileField, Constraint.ofAnnotation_eq_of_agree h]

theorem compileFields_eq_of_agree {decls : List FieldDecl}
    (h : lex.Agree lex' (decls.flatMap FieldDecl.ruleTokens)) (owner : TypeTag) :
    compileFields lex owner decls = compileFields lex' owner decls := by
  induction decls with
  | nil => rfl
  | cons decl rest ih =>
    rw [List.flatMap_cons] at h
    have hdecl := h.mono (List.subset_append_left decl.ruleTokens _)
    have hrest := h.mono (List.subset_append_right decl.ruleTokens _)
    rw [compileFields, compileFields, compileField_eq_of_agree hdecl, ih hrest]

theorem ofType_eq_of_agree {t : RecordType} (h : lex.Agree lex' t.ruleTokens) :
    ofType lex t = ofType lex' t := by
  rw [ofType, ofType, compileFields_eq_of_agree h]

end Blueprint

end RecordValidation
