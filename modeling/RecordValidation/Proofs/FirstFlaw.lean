import RecordValidation.Proofs.Printing
import RecordValidation.Proofs.Refusal

/-!
What the fault of a registration points at. In every annotation that is not well formed there
is a first flaw: the first token that breaks the level which it stands in, when the levels
before this one are well formed. Compiling fails at this token, whatever stands behind it, as
long as the tokens before it are read in the same way. Registration fails with the first flaw
of the first field that has one.
-/

namespace RecordValidation

open Annotation

/-- A token that can not stand in a level behind some tokens, which can. -/
structure Station.Breaks (lex : Lexicon) (station : Station) (before : List Token)
    (t : Token) : Prop where
  form : station.LevelForm lex before
  broken : ¬station.LevelForm lex (before ++ [t])

theorem Station.exists_breaks {lex : Lexicon} {station : Station} {done rest : List Token}
    (hdone : station.LevelForm lex done) (h : ¬station.LevelForm lex (done ++ rest)) :
    ∃ before t after, rest = before ++ t :: after ∧ station.Breaks lex (done ++ before) t := by
  induction rest generalizing done with
  | nil =>
    rw [List.append_nil] at h
    exact absurd hdone h
  | cons t rest ih =>
    by_cases ht : station.LevelForm lex (done ++ [t])
    · rw [List.append_cons] at h
      obtain ⟨before, t', after, rfl, hbreaks⟩ := ih ht h
      rw [← List.append_cons] at hbreaks
      exact ⟨t :: before, t', after, rfl, hbreaks⟩
    · refine ⟨[], t, rest, rfl, ?_⟩
      rw [List.append_nil]
      exact ⟨hdone, ht⟩

/-- What a cause says about the token that is refused for it. Patterns that can not be read
are those of a rule with a pattern for its argument. -/
def Token.Explains (t : Token) : TokenFault → Prop
  | .pattern e => ∃ pattern, t.text = "regex:" ++ pattern ∧ Pattern.ofString? pattern = .error e
  | _ => True

namespace Segment

variable {β α : Type} {d : Dialect β α} {lex : Lexicon} {s : Segment β α} {t : Token}
  {cause : TokenFault}

theorem explains_of_argument (h : argument t = .error cause) : t.Explains cause := by
  unfold argument at h
  split at h
  · split at h <;> cases h
    trivial
  · cases h
    trivial

theorem explains_of_once {γ : Type} {place : Option γ} {value : γ}
    (h : once place value = .error cause) : t.Explains cause := by
  unfold once at h
  split at h <;> cases h
  trivial

theorem explains_of_readArgument {γ : Type} {read? : Option (String → Except Malformed γ)}
    (h : readArgument d read? t = .error cause) : t.Explains cause := by
  unfold readArgument at h
  split at h
  · cases h
    trivial
  · next read =>
    rcases bind_eq_error_iff.mp h with harg | ⟨arg, -, hread⟩
    · exact explains_of_argument harg
    · cases hresult : read arg with
      | ok value =>
        rw [hresult] at hread
        cases hread
      | error reason =>
        rw [hresult] at hread
        cases hread
        trivial

theorem explains_of_resolve (h : resolve lex t = .error cause) : t.Explains cause := by
  unfold resolve at h
  split at h
  · split at h <;> cases h
    trivial
  · split at h <;> cases h
    trivial

/-- The rules that have a bound or members: the argument is read, then the place is filled. -/
theorem explains_of_fill {γ : Type} {read? : Option (String → Except Malformed γ)}
    {place : Option γ} {f : Option γ → Segment β α}
    (h : (do let value ← once place (← readArgument d read? t); return f value) =
      .error cause) : t.Explains cause := by
  rcases bind_eq_error_iff.mp h with hread | ⟨value, -, h⟩
  · exact explains_of_readArgument hread
  rcases bind_eq_error_iff.mp h with honce | ⟨_, -, h⟩
  · exact explains_of_once honce
  · cases h

theorem text_of_argument {b : Builtin} (hb : t.is b = true) {arg : String}
    (h : argument t = .ok arg) : t.text = b.name ++ ":" ++ arg := by
  obtain ⟨name, arg?⟩ := t
  have hname : name = b.name := Token.is_iff.mp hb
  obtain ⟨harg, -⟩ := Option.filter_eq_some_iff.mp (argument_eq_ok_iff.mp h)
  have harg : arg? = some arg := harg
  rw [hname, harg]
  apply String.toList_inj.mp
  simp [Token.text, Token.chars]

theorem explains_of_add (h : s.add d lex t = .error cause) : t.Explains cause := by
  unfold add at h
  split at h
  · split at h
    · cases h
      trivial
    · split at h <;> cases h
      trivial
  · exact explains_of_fill h
  · exact explains_of_fill h
  · exact explains_of_fill h
  · next hname =>
    split at h
    · cases h
      trivial
    rcases bind_eq_error_iff.mp h with harg | ⟨arg, harg, h⟩
    · exact explains_of_argument harg
    rcases bind_eq_error_iff.mp h with hread | ⟨p, -, h⟩
    · cases hresult : Pattern.ofString? arg with
      | ok p =>
        rw [hresult] at hread
        cases hread
      | error e =>
        rw [hresult] at hread
        cases hread
        exact ⟨arg, text_of_argument (Token.is_of_ofName? hname) harg, hresult⟩
    rcases bind_eq_error_iff.mp h with honce | ⟨_, -, h⟩
    · exact explains_of_once honce
    · cases h
  · cases h
    trivial
  · rcases bind_eq_error_iff.mp h with hresolve | ⟨_, -, h⟩
    · exact explains_of_resolve hresolve
    · cases h

theorem compileFrom_append (s : Segment β α) (before after : List Token) :
    compileFrom d lex s (before ++ after) =
      compileFrom d lex s before >>= fun s => compileFrom d lex s after := by
  induction before generalizing s with
  | nil => rfl
  | cons t rest ih =>
    rw [List.cons_append, compileFrom, compileFrom]
    cases s.add d lex t with
    | ok next => exact ih next
    | error cause => rfl

/-- A level is refused at the token that breaks it. What stands behind does not matter. -/
theorem compile_of_breaks (hd : d.Speaks) {before : List Token}
    (h : d.station.Breaks lex before t) :
    ∃ cause, t.Explains cause ∧
      ∀ after, compile d lex (before ++ t :: after) = .error ⟨t, cause⟩ := by
  have hbefore : compile d lex before = .ok (ofTokens d lex before) :=
    (compile_eq_ok_iff hd).mpr ⟨h.form, rfl⟩
  cases hadd : (ofTokens d lex before).add d lex t with
  | ok next =>
    obtain ⟨⟨hadmits, hfresh⟩, -⟩ := (add_ofTokens_eq_ok_iff hd h.form).mp hadd
    exact absurd (Station.levelForm_append_singleton.mpr ⟨h.form, hadmits, hfresh⟩) h.broken
  | error cause =>
    refine ⟨cause, explains_of_add hadd, fun after => ?_⟩
    rw [compile] at hbefore
    rw [compile, compileFrom_append, hbefore]
    show compileFrom d lex (ofTokens d lex before) (t :: after) = _
    rw [compileFrom, hadd]

/-- The same for a level that is compiled and then put somewhere. -/
theorem map_compile_of_breaks {γ : Type} (hd : d.Speaks) {before : List Token}
    (h : d.station.Breaks lex before t) (f : Segment β α → γ) :
    ∃ cause, t.Explains cause ∧
      ∀ after, (compile d lex (before ++ t :: after)).map f = .error ⟨t, cause⟩ := by
  obtain ⟨cause, hcause, herror⟩ := compile_of_breaks hd h
  refine ⟨cause, hcause, fun after => ?_⟩
  rw [herror]
  rfl

end Segment

theorem ScalarConstraint.compile_of_breaks {lex : Lexicon} {s : Scalar} {before : List Token}
    {t : Token} (h : (Station.scalar s).Breaks lex before t) :
    ∃ cause, t.Explains cause ∧
      ∀ after, compile lex (before ++ t :: after) s = .error ⟨t, cause⟩ := by
  cases s with
  | text => exact Segment.map_compile_of_breaks Dialect.text_speaks h ScalarConstraint.text
  | integer => exact Segment.map_compile_of_breaks Dialect.whole_speaks h ScalarConstraint.integer
  | float => exact Segment.map_compile_of_breaks Dialect.float_speaks h ScalarConstraint.float
  | time => exact Segment.map_compile_of_breaks Dialect.time_speaks h ScalarConstraint.time

namespace Annotation

theorem flat_append_cons_iff {before after : List Token} {t : Token} :
    Flat (before ++ t :: after) ↔ Flat before ∧ t.isDive = false ∧ Flat after := by
  unfold Flat
  rw [List.forall_mem_append, List.forall_mem_cons]

theorem flat_of_any_isDive {tokens : List Token} (h : tokens.any Token.isDive = false) :
    Flat tokens :=
  fun t ht => Bool.eq_false_iff.mpr (List.any_eq_false.mp h t ht)

theorem splitDive_cons_of_not_dive {t : Token} (h : t.isDive = false) (rest : List Token) :
    splitDive (t :: rest) = (t :: (splitDive rest).1, (splitDive rest).2) := by
  simp only [splitDive, h, Bool.false_eq_true, if_false]

theorem splitDive_flat_append {head : List Token} (h : Flat head) (rest : List Token) :
    splitDive (head ++ rest) = (head ++ (splitDive rest).1, (splitDive rest).2) := by
  induction head with
  | nil => rfl
  | cons t head ih =>
    obtain ⟨ht, hhead⟩ := List.forall_mem_cons.mp h
    rw [List.cons_append, splitDive_cons_of_not_dive ht, ih hhead, List.cons_append]

/-- Tokens of which none stands behind a dive. -/
def Closed (tokens : List Token) : Prop := ∀ tail, (splitDive tokens).2 = some tail → tail = []

theorem closed_of_flat {tokens : List Token} (h : Flat tokens) : Closed tokens := by
  intro tail htail
  rw [splitDive_of_flat h] at htail
  cases htail

theorem closed_append_dive {head : List Token} (h : Flat head) : Closed (head ++ [.dive]) := by
  intro tail htail
  rw [splitDive_append h] at htail
  cases htail
  rfl

end Annotation

/-- The first flaw of tokens for a shape, between the tokens before it and those behind it.
It breaks its level, and the levels before this one are well formed. Only of the tokens behind
the dive of a record the first is the flaw, whatever stands before the dive. -/
inductive Flaw (lex : Lexicon) : Shape → List Token → Token → List Token → Prop
  | scalar (s : Scalar) (before after : List Token) (t : Token)
      (h : (Station.scalar s).Breaks lex before t) : Flaw lex (.scalar s) before t after
  | sequence (element : Shape) (before after : List Token) (t : Token) (hdive : t.isDive = false)
      (h : Station.sequence.Breaks lex before t) : Flaw lex (.sequence element) before t after
  | element (element : Shape) (head before after : List Token) (t : Token)
      (hhead : Station.sequence.LevelForm lex head) (h : Flaw lex element before t after) :
      Flaw lex (.sequence element) (head ++ Token.dive :: before) t after
  | record (tag : TypeTag) (before after : List Token) (t : Token) (hdive : t.isDive = false)
      (h : Station.record.Breaks lex before t) (hafter : Closed after) :
      Flaw lex (.record tag) before t after
  | beyond (tag : TypeTag) (head after : List Token) (t : Token) (hflat : Flat head) :
      Flaw lex (.record tag) (head ++ [Token.dive]) t after
  | pointer (inner : Shape) (s : Scalar) (hcore : inner.core = .scalar s)
      (before after : List Token) (t : Token) (hdive : t.isDive = false)
      (h : Station.pointer.Breaks lex before t) (hafter : after.any Token.isDive = true) :
      Flaw lex (.optional inner) before t after
  | target (inner : Shape) (s : Scalar) (hcore : inner.core = .scalar s)
      (head before after : List Token) (t : Token) (hhead : Station.pointer.LevelForm lex head)
      (h : Flaw lex (.scalar s) before t after) :
      Flaw lex (.optional inner) (head ++ Token.dive :: before) t after
  | optional (inner : Shape) (before after : List Token) (t : Token)
      (hplain : Flat (before ++ t :: after) ∨ ∀ s, inner.core ≠ .scalar s)
      (h : Flaw lex inner before t after) : Flaw lex (.optional inner) before t after

/-- Whether a token is read in the same way with other tokens behind it, as far as they can
make a difference: an optional scalar that is no pointer does not become one, nor the other
way round, and no token comes to stand behind the dive of a record. -/
def Shape.ReadsAlike : Shape → List Token → List Token → List Token → Prop
  | .optional inner, before, after, after' =>
    ((∃ s, inner.core = .scalar s) → before.any Token.isDive = true ∨
      after'.any Token.isDive = after.any Token.isDive) ∧ inner.ReadsAlike before after after'
  | .sequence element, before, after, after' =>
    ∀ tail, (splitDive before).2 = some tail → element.ReadsAlike tail after after'
  | .record _, before, _, after' => (splitDive before).2 = none → Closed after'
  | .scalar _, _, _, _ | .inert, _, _, _ => True

theorem Station.exists_breaks_of_flat {lex : Lexicon} {station : Station} {tokens : List Token}
    (hflat : Flat tokens) (h : ¬station.LevelForm lex tokens) :
    ∃ before t after, tokens = before ++ t :: after ∧ station.Breaks lex before t ∧
      t.isDive = false ∧ Flat after := by
  obtain ⟨before, t, after, rfl, hbreaks⟩ := exists_breaks levelForm_nil h
  obtain ⟨-, hdive, hafter⟩ := flat_append_cons_iff.mp hflat
  exact ⟨before, t, after, rfl, hbreaks, hdive, hafter⟩

/-- Tokens that are not well formed have a first flaw. -/
theorem exists_flaw {lex : Lexicon} {shape : Shape} {tokens : List Token}
    (h : ¬WellFormed lex shape tokens) :
    ∃ before t after, tokens = before ++ t :: after ∧ Flaw lex shape before t after := by
  induction shape generalizing tokens with
  | scalar s =>
    rw [WellFormed.scalar_iff] at h
    obtain ⟨before, t, after, rfl, hbreaks⟩ := Station.exists_breaks Station.levelForm_nil h
    exact ⟨before, t, after, rfl, .scalar s before after t hbreaks⟩
  | optional inner ih =>
    rcases Constraint.plain_or_pointer inner tokens with
      hplain | ⟨s, head, tail, hcore, hflat, rfl⟩
    · rw [WellFormed.optional_iff_of_plain hplain] at h
      obtain ⟨before, t, after, rfl, hflaw⟩ := ih h
      exact ⟨before, t, after, rfl, .optional inner before after t hplain hflaw⟩
    rw [WellFormed.pointer_append_iff hcore hflat] at h
    by_cases hhead : Station.pointer.LevelForm lex head
    · have htail : ¬(Station.scalar s).LevelForm lex tail := fun htail => h ⟨hhead, htail⟩
      obtain ⟨before, t, after, rfl, hbreaks⟩ :=
        Station.exists_breaks Station.levelForm_nil htail
      have hflaw := Flaw.scalar s before after t hbreaks
      exact ⟨head ++ Token.dive :: before, t, after, by simp,
        .target inner s hcore head before after t hhead hflaw⟩
    · obtain ⟨before, t, after, rfl, hbreaks, hdive, -⟩ :=
        Station.exists_breaks_of_flat hflat hhead
      exact ⟨before, t, after ++ Token.dive :: tail, by simp,
        .pointer inner s hcore before _ t hdive hbreaks (any_isDive_append after tail)⟩
  | sequence element ih =>
    rcases flat_or_eq_append tokens with hflat | ⟨head, tail, hflat, rfl⟩
    · rw [WellFormed.sequence_iff_of_flat hflat] at h
      obtain ⟨before, t, after, rfl, hbreaks, hdive, -⟩ := Station.exists_breaks_of_flat hflat h
      exact ⟨before, t, after, rfl, .sequence element before after t hdive hbreaks⟩
    rw [WellFormed.sequence_append_iff hflat] at h
    by_cases hhead : Station.sequence.LevelForm lex head
    · obtain ⟨before, t, after, rfl, hflaw⟩ := ih fun htail => h ⟨hhead, htail⟩
      exact ⟨head ++ Token.dive :: before, t, after, by simp,
        .element element head before after t hhead hflaw⟩
    · obtain ⟨before, t, after, rfl, hbreaks, hdive, -⟩ :=
        Station.exists_breaks_of_flat hflat hhead
      exact ⟨before, t, after ++ Token.dive :: tail, by simp,
        .sequence element before _ t hdive hbreaks⟩
  | record tag =>
    rcases flat_or_eq_append tokens with hflat | ⟨head, tail, hflat, rfl⟩
    · rw [WellFormed.record_iff_of_flat hflat] at h
      obtain ⟨before, t, after, rfl, hbreaks, hdive, hafter⟩ :=
        Station.exists_breaks_of_flat hflat h
      exact ⟨before, t, after, rfl,
        .record tag before after t hdive hbreaks (closed_of_flat hafter)⟩
    -- What stands behind the dive is looked at before the head.
    cases tail with
    | nil =>
      rw [WellFormed.record_append_iff hflat] at h
      have hhead : ¬Station.record.LevelForm lex head := fun hhead => h ⟨hhead, rfl⟩
      obtain ⟨before, t, after, rfl, hbreaks, hdive, hafter⟩ :=
        Station.exists_breaks_of_flat hflat hhead
      exact ⟨before, t, after ++ [Token.dive], by simp,
        .record tag before _ t hdive hbreaks (closed_append_dive hafter)⟩
    | cons t after =>
      exact ⟨head ++ [Token.dive], t, after, by simp, .beyond tag head after t hflat⟩
  | inert => exact absurd (.inert tokens) h

namespace Shape

theorem readsAlike_of_core {shape : Shape} {s : Scalar} (hcore : shape.core = .scalar s)
    {before after after' : List Token} (h : before.any Token.isDive = true ∨
      after'.any Token.isDive = after.any Token.isDive) : shape.ReadsAlike before after after' := by
  induction shape with
  | scalar s => trivial
  | optional inner ih => exact ⟨fun _ => h, ih hcore⟩
  | sequence element ih => cases hcore
  | record tag => cases hcore
  | inert => trivial

/-- Behind tokens without a dive, one comes for both or for neither. -/
theorem ReadsAlike.any_isDive_eq {inner : Shape} {before after after' : List Token}
    (h : (Shape.optional inner).ReadsAlike before after after') (hbefore : Flat before)
    {s : Scalar} (hcore : inner.core = .scalar s) :
    after'.any Token.isDive = after.any Token.isDive := by
  rcases h.1 ⟨s, hcore⟩ with hany | hsame
  · rw [any_isDive_of_flat hbefore] at hany
    cases hany
  · exact hsame

/-- What is not read as a pointer does not become one. -/
theorem ReadsAlike.plain {inner : Shape} {before after after' : List Token} {t : Token}
    (h : (Shape.optional inner).ReadsAlike before after after')
    (hplain : Flat (before ++ t :: after) ∨ ∀ s, inner.core ≠ .scalar s) :
    Flat (before ++ t :: after') ∨ ∀ s, inner.core ≠ .scalar s := by
  rcases hplain with hflat | hne
  · obtain ⟨hbefore, hdive, hafter⟩ := flat_append_cons_iff.mp hflat
    by_cases hcore : ∃ s, inner.core = .scalar s
    · obtain ⟨s, hcore⟩ := hcore
      have hsame := h.any_isDive_eq hbefore hcore
      rw [any_isDive_of_flat hafter] at hsame
      exact .inl (flat_append_cons_iff.mpr ⟨hbefore, hdive, flat_of_any_isDive hsame⟩)
    · exact .inr (not_exists.mp hcore)
  · exact .inr hne

end Shape

namespace Flaw

variable {lex : Lexicon} {shape : Shape} {before after : List Token} {t : Token}

/-- Nothing changes when the tokens behind the flaw stay. -/
theorem readsAlike (h : Flaw lex shape before t after) : shape.ReadsAlike before after after := by
  induction h with
  | scalar s before after t h => trivial
  | sequence element before after t hdive h =>
    intro tail htail
    rw [splitDive_of_flat h.form.flat] at htail
    cases htail
  | element element head before after t hhead h ih =>
    intro tail htail
    rw [splitDive_append hhead.flat] at htail
    cases htail
    exact ih
  | record tag before after t hdive h hafter => exact fun _ => hafter
  | beyond tag head after t hflat =>
    intro hnone
    rw [splitDive_append hflat] at hnone
    cases hnone
  | pointer inner s hcore before after t hdive h hafter =>
    exact ⟨fun _ => .inr rfl, Shape.readsAlike_of_core hcore (.inr rfl)⟩
  | target inner s hcore head before after t hhead h ih =>
    exact ⟨fun _ => .inr rfl, Shape.readsAlike_of_core hcore (.inr rfl)⟩
  | optional inner before after t hplain h ih => exact ⟨fun _ => .inr rfl, ih⟩

/-- Compiling fails at the first flaw, and does so with all other tokens behind it that leave
those up to the flaw to be read as they were. -/
theorem compile_eq_error (h : Flaw lex shape before t after) :
    ∃ cause, t.Explains cause ∧ ∀ after', shape.ReadsAlike before after after' →
      Constraint.compile lex shape (before ++ t :: after') = .error ⟨t, cause⟩ := by
  induction h with
  | scalar s before after t h =>
    obtain ⟨cause, hcause, herror⟩ := ScalarConstraint.compile_of_breaks h
    refine ⟨cause, hcause, fun after' _ => ?_⟩
    rw [Constraint.compile, herror]
    rfl
  | sequence element before after t hdive h =>
    obtain ⟨cause, hcause, herror⟩ := Segment.compile_of_breaks Dialect.sequence_speaks h
    refine ⟨cause, hcause, fun after' _ => ?_⟩
    rw [Constraint.compile, splitDive_flat_append h.form.flat, splitDive_cons_of_not_dive hdive]
    dsimp only
    rw [herror]
    rfl
  | element element head before after t hhead h ih =>
    obtain ⟨cause, hcause, herror⟩ := ih
    refine ⟨cause, hcause, fun after' halike => ?_⟩
    have hbefore : element.ReadsAlike before after after' :=
      halike before (by rw [splitDive_append hhead.flat])
    have hok : Segment.compile .sequence lex head = .ok (.ofTokens .sequence lex head) :=
      (Segment.compile_eq_ok_iff Dialect.sequence_speaks).mpr ⟨hhead, rfl⟩
    rw [List.append_assoc, List.cons_append, Constraint.compile, splitDive_append hhead.flat]
    dsimp only
    rw [hok, herror after' hbefore]
    rfl
  | record tag before after t hdive h hafter =>
    obtain ⟨cause, hcause, herror⟩ := Segment.compile_of_breaks Dialect.record_speaks h
    refine ⟨cause, hcause, fun after' halike => ?_⟩
    have hclosed : Closed after' := halike (by rw [splitDive_of_flat h.form.flat])
    rw [Constraint.compile, Constraint.compileRecord, splitDive_flat_append h.form.flat,
      splitDive_cons_of_not_dive hdive]
    split
    · next _ u rest hsplit =>
      cases hclosed _ (congrArg Prod.snd hsplit)
    · next _ head hsplit =>
      cases hsplit
      rw [herror]
      rfl
  | beyond tag head after t hflat =>
    refine ⟨.malformed .beyondRecord, trivial, fun after' _ => ?_⟩
    rw [List.append_assoc, Constraint.compile, Constraint.compileRecord, List.singleton_append,
      splitDive_append hflat]
  | pointer inner s hcore before after t hdive h hafter =>
    obtain ⟨cause, hcause, herror⟩ := Segment.compile_of_breaks Dialect.pointer_speaks h
    refine ⟨cause, hcause, fun after' halike => ?_⟩
    have hdives : after'.any Token.isDive = true :=
      (halike.any_isDive_eq h.form.flat hcore).trans hafter
    rcases flat_or_eq_append after' with hflat | ⟨rest, tail, hflat, rfl⟩
    · rw [any_isDive_of_flat hflat] at hdives
      cases hdives
    have hhead : Flat (before ++ t :: rest) :=
      flat_append_cons_iff.mpr ⟨h.form.flat, hdive, hflat⟩
    rw [← List.cons_append, ← List.append_assoc, Constraint.compile_pointer hcore hhead, herror]
    rfl
  | target inner s hcore head before after t hhead h ih =>
    cases h with
    | scalar s before after t h =>
      obtain ⟨cause, hcause, herror⟩ := ScalarConstraint.compile_of_breaks h
      refine ⟨cause, hcause, fun after' _ => ?_⟩
      have hok : Segment.compile .pointer lex head = .ok (.ofTokens .pointer lex head) :=
        (Segment.compile_eq_ok_iff Dialect.pointer_speaks).mpr ⟨hhead, rfl⟩
      rw [List.append_assoc, List.cons_append, Constraint.compile_pointer hcore hhead.flat, hok,
        herror]
      rfl
  | optional inner before after t hplain h ih =>
    obtain ⟨cause, hcause, herror⟩ := ih
    refine ⟨cause, hcause, fun after' halike => ?_⟩
    rw [Constraint.compile_optional_of_plain (halike.plain hplain)]
    exact herror after' halike.2

end Flaw

theorem Annotation.toList_text_mem_pieces {text : String} {t : Token} (h : t ∈ tokens text) :
    t.text.toList ∈ pieces '|' text.toList := by
  unfold tokens at h
  split at h
  · cases h
  · obtain ⟨piece, hpiece, rfl⟩ := List.mem_map.mp h
    rwa [Token.text, String.toList_ofList, Token.chars_ofChars]

/-- An annotation that is refused is refused at its first flaw. -/
theorem Constraint.flaw_of_ofAnnotation {lex : Lexicon} {shape : Shape} {rules : String}
    {bad : BadToken} (h : ofAnnotation lex shape rules = .error bad) :
    ∃ before after, tokens rules = before ++ bad.token :: after ∧
      Flaw lex shape before bad.token after ∧ bad.token.Explains bad.cause ∧
      ∀ rules' after', tokens rules' = before ++ bad.token :: after' →
        shape.ReadsAlike before after after' → ofAnnotation lex shape rules' = .error bad := by
  have hne : rules ≠ "" := by
    rintro rfl
    cases h
  rw [ofAnnotation_of_ne hne] at h
  have hform : ¬WellFormed lex shape (tokens rules) := by
    intro hform
    rw [(compile_eq_ok_iff shape).mpr ⟨hform, rfl⟩] at h
    cases h
  obtain ⟨before, t, after, htokens, hflaw⟩ := exists_flaw hform
  obtain ⟨cause, hcause, herror⟩ := hflaw.compile_eq_error
  rw [htokens, herror after hflaw.readsAlike] at h
  cases h
  refine ⟨before, after, htokens, hflaw, hcause, ?_⟩
  intro rules' after' htokens' halike
  have hne' : rules' ≠ "" := by
    rintro rfl
    cases before <;> cases htokens'
  rw [ofAnnotation_of_ne hne', htokens']
  exact herror after' halike

namespace Inspector

/-- The fault of a registration that fails, of a type that is not registered yet, names the
first field which can not be registered on its own, and the token of its annotation that is
the first flaw. The fault stays the same with other fields behind this one, and with other
tokens behind this one that leave it to be read as it is. -/
theorem registration_names_first_flaw (i : Inspector) (t : RecordType) (f : Fault)
    (hnew : i.isRegistered t.tag = false) (h : i.register t = .error f) :
    ∃ (earlier later : List FieldDecl) (name : String) (type : FieldType) (rules : String)
      (before after : List Token) (bad : BadToken),
      t.fields = earlier ++ .checked name type rules :: later ∧
      (∀ decl ∈ earlier, ∃ i', i.register ⟨t.tag, [decl]⟩ = .ok i') ∧
      i.register ⟨t.tag, [.checked name type rules]⟩ = .error f ∧
      f = .registration t.tag.name name bad.token bad.cause ∧
      bad.token.text.toList ∈ pieces '|' rules.toList ∧ bad.token.Explains bad.cause ∧
      tokens rules = before ++ bad.token :: after ∧
      Flaw i.lexicon type.shape before bad.token after ∧
      ∀ rules' after' later', tokens rules' = before ++ bad.token :: after' →
        type.shape.ReadsAlike before after after' →
        i.register ⟨t.tag, earlier ++ .checked name type rules' :: later'⟩ = .error f := by
  have hrefuses := register_eq_error_iff.mp h
  cases hrefuses with
  | registered t hregistered =>
    rw [hnew] at hregistered
    cases hregistered
  | rejected tag earlier later name type rules bad _ hearlier hbad =>
    obtain ⟨before, after, htokens, hflaw, hcause, hother⟩ := Constraint.flaw_of_ofAnnotation hbad
    have halone : i.register ⟨tag, [.checked name type rules]⟩ =
        .error (.registration tag.name name bad.token bad.cause) :=
      register_eq_error_iff.mpr
        (.rejected tag [] [] name type rules bad hnew (List.forall_mem_nil _) hbad)
    have haccepted : ∀ decl ∈ earlier, ∃ i', i.register ⟨tag, [decl]⟩ = .ok i' := by
      intro decl hdecl
      exact ⟨_, register_eq_ok_iff.mpr
        ⟨hnew, List.forall_mem_singleton.mpr (hearlier decl hdecl), rfl⟩⟩
    have htext : bad.token.text.toList ∈ pieces '|' rules.toList :=
      toList_text_mem_pieces (by rw [htokens]; simp)
    refine ⟨earlier, later, name, type, rules, before, after, bad, rfl, haccepted, halone, rfl,
      htext, hcause, htokens, hflaw, ?_⟩
    intro rules' after' later' htokens' halike
    exact register_eq_error_iff.mpr (.rejected tag earlier later' name type rules' bad hnew
      hearlier (hother rules' after' htokens' halike))

/-- A rule behind the dive of a record is the flaw, although the one before is unknown too. -/
example : register {} ⟨RecordType.order.tag,
    [.checked "user" (.record RecordType.user.tag) "known|dive|req"]⟩ =
      .error (.registration "Order" "user" ⟨"req", none⟩ (.malformed .beyondRecord)) := by
  cbv

/-- The count of an order is the flaw, also when more is wrong behind it. -/
theorem registration_names_first_flaw_order :
    let f := Fault.registration "Order" "count" ⟨"max", some "many"⟩
      (.malformed (.notWhole .invalidDigit))
    isRegistered {} RecordType.order.tag = false ∧ register {} .order = .error f ∧
      ∀ later', register {} ⟨RecordType.order.tag, .checked "id" .text "req|min:8" ::
        .checked "count" (.integer (.signed 64)) "max:many|dive|min:no" :: later'⟩ = .error f := by
  intro f
  have hfault : register {} .order = .error f := by cbv
  obtain ⟨earlier, later, name, type, rules, before, after, bad, hfields, -, halone, -, -, -,
    htokens, -, hother⟩ := registration_names_first_flaw {} .order f rfl hfault
  refine ⟨rfl, hfault, fun later' => ?_⟩
  rcases earlier with _ | ⟨first, _ | ⟨second, rest⟩⟩
  · cases hfields
    have hid : (register {} ⟨RecordType.order.tag,
        [.checked "id" .text "req|min:8"]⟩).toOption.isSome = true := by cbv
    rw [halone] at hid
    cases hid
  · cases hfields
    have hmax : tokens "max:many" = [⟨"max", some "many"⟩] := by decide
    have hmore : tokens "max:many|dive|min:no" =
        [⟨"max", some "many"⟩, .dive, ⟨"min", some "no"⟩] := by decide
    rw [hmax] at htokens
    cases before with
    | nil =>
      obtain ⟨htoken, -⟩ := List.cons.inj htokens
      rw [htoken] at hmore
      exact hother "max:many|dive|min:no" [.dive, ⟨"min", some "no"⟩] later' hmore trivial
    | cons t before => cases before <;> cases htokens
  · cases rest <;> cases hfields

end Inspector

end RecordValidation
