import RecordValidation.Proofs.Reading

/-!
The grammar of annotations. Which tokens may follow which is said for each shape,
without regard to how they are compiled. Compiling succeeds on the well-formed
annotations and on no others, and gives what their levels are read as.
-/

namespace RecordValidation

/-- The token that divides the rules of a container from those of what it holds. -/
def Token.dive : Token := ⟨Builtin.dive.name, none⟩

theorem Token.isDive_iff {t : Token} : t.isDive = true ↔ t = .dive := beq_iff_eq

theorem Token.is_dive_of_isDive {t : Token} (h : t.isDive = true) : t.is .dive = true := by
  rw [isDive_iff.mp h]
  rfl

namespace Annotation

theorem tokens_ne_nil {text : String} (hne : text ≠ "") : tokens text ≠ [] := by
  rw [tokens, if_neg (by simpa using hne)]
  intro h
  exact pieces_ne_nil '|' text.toList (List.map_eq_nil_iff.mp h)

/-- Tokens of which none is a dive. -/
def Flat (tokens : List Token) : Prop := ∀ t ∈ tokens, t.isDive = false

theorem any_isDive_of_flat {tokens : List Token} (h : Flat tokens) :
    tokens.any Token.isDive = false := by
  rw [List.any_eq_false]
  intro t ht
  rw [h t ht]
  nofun

theorem any_isDive_append (head tail : List Token) :
    (head ++ Token.dive :: tail).any Token.isDive = true :=
  List.any_eq_true.mpr ⟨.dive, by simp, rfl⟩

theorem splitDive_of_flat {tokens : List Token} (h : Flat tokens) :
    splitDive tokens = (tokens, none) := by
  induction tokens with
  | nil => rfl
  | cons t rest ih =>
    have ht := h t List.mem_cons_self
    have hrest := ih fun t' ht' => h t' (List.mem_cons_of_mem t ht')
    simp only [splitDive, ht, hrest, Bool.false_eq_true, if_false]

theorem splitDive_append {head : List Token} (h : Flat head) (tail : List Token) :
    splitDive (head ++ Token.dive :: tail) = (head, some tail) := by
  induction head with
  | nil => rfl
  | cons t rest ih =>
    have ht := h t List.mem_cons_self
    have hrest := ih fun t' ht' => h t' (List.mem_cons_of_mem t ht')
    simp only [List.cons_append, splitDive, ht, hrest, Bool.false_eq_true, if_false]

/-- Tokens either are flat, or are cut at the first dive among them. -/
theorem flat_or_eq_append (tokens : List Token) :
    Flat tokens ∨ ∃ head tail, Flat head ∧ tokens = head ++ Token.dive :: tail := by
  induction tokens with
  | nil => exact .inl nofun
  | cons t rest ih =>
    by_cases ht : t.isDive = true
    · exact .inr ⟨[], rest, nofun, by rw [Token.isDive_iff.mp ht]; rfl⟩
    have ht : t.isDive = false := Bool.eq_false_iff.mpr ht
    rcases ih with hflat | ⟨head, tail, hflat, rfl⟩
    · exact .inl (List.forall_mem_cons.mpr ⟨ht, hflat⟩)
    · exact .inr ⟨t :: head, tail, List.forall_mem_cons.mpr ⟨ht, hflat⟩, rfl⟩

theorem not_flat_append {head tail : List Token} : ¬Flat (head ++ Token.dive :: tail) := by
  intro h
  have hdive := h .dive (by simp)
  cases hdive

/-- There is one way only to cut tokens at their first dive. -/
theorem append_dive_inj {head head' tail tail' : List Token} (h : Flat head) (h' : Flat head')
    (heq : head ++ Token.dive :: tail = head' ++ Token.dive :: tail') :
    head = head' ∧ tail = tail' := by
  have hsplit := splitDive_append h tail
  rw [heq, splitDive_append h' tail'] at hsplit
  cases hsplit
  exact ⟨rfl, rfl⟩

end Annotation

open Annotation

theorem Station.LevelForm.flat {station : Station} {lex : Lexicon} {tokens : List Token}
    (h : station.LevelForm lex tokens) : Flat tokens := by
  intro t ht
  cases hdive : t.isDive with
  | false => rfl
  | true =>
    obtain ⟨arg, -, htakes⟩ := (h.admits t ht).argument_takes (Token.is_dive_of_isDive hdive) nofun
    exact absurd htakes Station.not_takes_dive

/-- The tokens that are well formed for a shape. No level holds a dive, so the dive
behind a level is the first. -/
inductive WellFormed (lex : Lexicon) : Shape → List Token → Prop
  | inert (tokens : List Token) : WellFormed lex .inert tokens
  | scalar (s : Scalar) (tokens : List Token) (h : (Station.scalar s).LevelForm lex tokens) :
      WellFormed lex (.scalar s) tokens
  | sequence (element : Shape) (tokens : List Token)
      (h : Station.sequence.LevelForm lex tokens) : WellFormed lex (.sequence element) tokens
  | elements (element : Shape) (head tail : List Token)
      (hhead : Station.sequence.LevelForm lex head) (htail : WellFormed lex element tail) :
      WellFormed lex (.sequence element) (head ++ Token.dive :: tail)
  | record (tag : TypeTag) (tokens : List Token) (h : Station.record.LevelForm lex tokens) :
      WellFormed lex (.record tag) tokens
  | dived (tag : TypeTag) (head : List Token) (h : Station.record.LevelForm lex head) :
      WellFormed lex (.record tag) (head ++ [Token.dive])
  | pointer (inner : Shape) (s : Scalar) (hcore : inner.core = .scalar s)
      (head tail : List Token) (hhead : Station.pointer.LevelForm lex head)
      (htail : WellFormed lex (.scalar s) tail) :
      WellFormed lex (.optional inner) (head ++ Token.dive :: tail)
  | optional (inner : Shape) (tokens : List Token)
      (hplain : Flat tokens ∨ ∀ s, inner.core ≠ .scalar s) (h : WellFormed lex inner tokens) :
      WellFormed lex (.optional inner) tokens

namespace WellFormed

variable {lex : Lexicon} {tokens head tail : List Token}

theorem scalar_iff {s : Scalar} :
    WellFormed lex (.scalar s) tokens ↔ (Station.scalar s).LevelForm lex tokens := by
  constructor
  · intro h
    cases h with
    | scalar s tokens h => exact h
  · exact .scalar s tokens

theorem sequence_iff_of_flat {element : Shape} (hflat : Flat tokens) :
    WellFormed lex (.sequence element) tokens ↔ Station.sequence.LevelForm lex tokens := by
  constructor
  · intro h
    cases h with
    | sequence element tokens h => exact h
    | elements element head tail hhead htail => exact absurd hflat not_flat_append
  · exact .sequence element tokens

theorem sequence_append_iff {element : Shape} (hflat : Flat head) :
    WellFormed lex (.sequence element) (head ++ Token.dive :: tail) ↔
      Station.sequence.LevelForm lex head ∧ WellFormed lex element tail := by
  constructor
  · intro h
    generalize htokens : head ++ Token.dive :: tail = tokens at h
    cases h with
    | sequence element tokens h => exact absurd (htokens ▸ h.flat) not_flat_append
    | elements element head' tail' hhead htail =>
      obtain ⟨rfl, rfl⟩ := append_dive_inj hflat hhead.flat htokens
      exact ⟨hhead, htail⟩
  · rintro ⟨hhead, htail⟩
    exact .elements element head tail hhead htail

theorem record_iff_of_flat {tag : TypeTag} (hflat : Flat tokens) :
    WellFormed lex (.record tag) tokens ↔ Station.record.LevelForm lex tokens := by
  constructor
  · intro h
    cases h with
    | record tag tokens h => exact h
    | dived tag head h => exact absurd hflat not_flat_append
  · exact .record tag tokens

theorem record_append_iff {tag : TypeTag} (hflat : Flat head) :
    WellFormed lex (.record tag) (head ++ Token.dive :: tail) ↔
      Station.record.LevelForm lex head ∧ tail = [] := by
  constructor
  · intro h
    generalize htokens : head ++ Token.dive :: tail = tokens at h
    cases h with
    | record tag tokens h => exact absurd (htokens ▸ h.flat) not_flat_append
    | dived tag head' h =>
      obtain ⟨rfl, rfl⟩ := append_dive_inj hflat h.flat htokens
      exact ⟨h, rfl⟩
  · rintro ⟨hhead, rfl⟩
    exact .dived tag head hhead

theorem optional_iff_of_plain {inner : Shape}
    (hplain : Flat tokens ∨ ∀ s, inner.core ≠ .scalar s) :
    WellFormed lex (.optional inner) tokens ↔ WellFormed lex inner tokens := by
  constructor
  · intro h
    cases h with
    | pointer inner s hcore head tail hhead htail =>
      rcases hplain with hflat | hne
      · exact absurd hflat not_flat_append
      · exact absurd hcore (hne s)
    | optional inner tokens hplain h => exact h
  · exact .optional inner tokens hplain

theorem pointer_append_iff {inner : Shape} {s : Scalar} (hcore : inner.core = .scalar s)
    (hflat : Flat head) :
    WellFormed lex (.optional inner) (head ++ Token.dive :: tail) ↔
      Station.pointer.LevelForm lex head ∧ (Station.scalar s).LevelForm lex tail := by
  rw [← scalar_iff (s := s)]
  constructor
  · intro h
    generalize htokens : head ++ Token.dive :: tail = tokens at h
    cases h with
    | pointer inner s' hcore' head' tail' hhead htail =>
      obtain ⟨rfl, rfl⟩ := append_dive_inj hflat hhead.flat htokens
      rw [hcore] at hcore'
      cases hcore'
      exact ⟨hhead, htail⟩
    | optional inner tokens hplain h =>
      rcases hplain with hflat | hne
      · exact absurd (htokens ▸ hflat) not_flat_append
      · exact absurd hcore (hne s)
  · rintro ⟨hhead, htail⟩
    exact .pointer inner s hcore head tail hhead htail

end WellFormed

/-- A level that is compiled and then put somewhere. -/
theorem Segment.map_compile_eq_ok_iff {β α γ : Type} {d : Dialect β α} (hd : d.Speaks)
    {lex : Lexicon} {tokens : List Token} {f : Segment β α → γ} {c : γ} :
    (compile d lex tokens).map f = .ok c ↔
      d.station.LevelForm lex tokens ∧ c = f (ofTokens d lex tokens) := by
  rw [map_eq_ok_iff]
  constructor
  · rintro ⟨seg, hseg, hc⟩
    obtain ⟨hform, rfl⟩ := (compile_eq_ok_iff hd).mp hseg
    exact ⟨hform, hc⟩
  · rintro ⟨hform, hc⟩
    exact ⟨_, (compile_eq_ok_iff hd).mpr ⟨hform, rfl⟩, hc⟩

namespace ScalarConstraint

/-- The rules of a scalar as they are read. -/
def ofTokens (lex : Lexicon) (tokens : List Token) : Scalar → ScalarConstraint
  | .text => .text (.ofTokens .text lex tokens)
  | .integer => .integer (.ofTokens .whole lex tokens)
  | .float => .float (.ofTokens .float lex tokens)
  | .time => .time (.ofTokens .time lex tokens)

theorem compile_eq_ok_iff {lex : Lexicon} {tokens : List Token} {s : Scalar}
    {target : ScalarConstraint} :
    compile lex tokens s = .ok target ↔
      (Station.scalar s).LevelForm lex tokens ∧ target = ofTokens lex tokens s := by
  cases s with
  | text => exact Segment.map_compile_eq_ok_iff Dialect.text_speaks
  | integer => exact Segment.map_compile_eq_ok_iff Dialect.whole_speaks
  | float => exact Segment.map_compile_eq_ok_iff Dialect.float_speaks
  | time => exact Segment.map_compile_eq_ok_iff Dialect.time_speaks

end ScalarConstraint

namespace Constraint

/-- The rules of a field or element as they are read, one level after another. -/
def ofTokens (lex : Lexicon) : Shape → List Token → Constraint
  | .scalar s, tokens => .scalar (.ofTokens lex tokens s)
  | .optional inner, tokens =>
    match inner.core, splitDive tokens with
    | .scalar s, (head, some tail) =>
      .pointer (.ofTokens .pointer lex head) (.ofTokens lex tail s)
    | _, _ => ofTokens lex inner tokens
  | .sequence element, tokens =>
    match splitDive tokens with
    | (head, some tail) =>
      .sequence (.ofTokens .sequence lex head) (ofTokens lex element tail)
    | (head, none) => .sequence (.ofTokens .sequence lex head) .unchecked
  | .record _, tokens => .record (.ofTokens .record lex (splitDive tokens).1)
  | .inert, _ => .unchecked

section

variable {lex : Lexicon} {tokens head tail : List Token} {c : Constraint}

/-- Whether optional layers are left out of account. -/
theorem plain_or_pointer (inner : Shape) (tokens : List Token) :
    (Flat tokens ∨ ∀ s, inner.core ≠ .scalar s) ∨
      ∃ s head tail, inner.core = .scalar s ∧ Flat head ∧
        tokens = head ++ Token.dive :: tail := by
  rcases flat_or_eq_append tokens with hflat | ⟨head, tail, hflat, htokens⟩
  · exact .inl (.inl hflat)
  cases hcore : inner.core with
  | scalar s => exact .inr ⟨s, head, tail, rfl, hflat, htokens⟩
  | _ => exact .inl (.inr nofun)

theorem compile_optional_of_plain {inner : Shape}
    (hplain : Flat tokens ∨ ∀ s, inner.core ≠ .scalar s) :
    compile lex (.optional inner) tokens = compile lex inner tokens := by
  rw [compile]
  cases hscalar : inner.core.scalar? with
  | none => rfl
  | some s =>
    have hcore : inner.core = .scalar s := by
      unfold Shape.scalar? at hscalar
      split at hscalar
      · next h => rw [h, Option.some.inj hscalar]
      · cases hscalar
    rcases hplain with hflat | hne
    · simp [any_isDive_of_flat hflat]
    · exact absurd hcore (hne s)

theorem ofTokens_optional_of_plain {inner : Shape}
    (hplain : Flat tokens ∨ ∀ s, inner.core ≠ .scalar s) :
    ofTokens lex (.optional inner) tokens = ofTokens lex inner tokens := by
  rw [ofTokens]
  split
  · next s head tail hcore hsplit =>
    rcases hplain with hflat | hne
    · rw [splitDive_of_flat hflat] at hsplit
      cases hsplit
    · exact absurd hcore (hne s)
  · rfl

theorem compile_sequence_flat {element : Shape} (hflat : Flat tokens) :
    compile lex (.sequence element) tokens =
      (Segment.compile .sequence lex tokens).map (.sequence · .unchecked) := by
  rw [compile, splitDive_of_flat hflat]
  rfl

theorem compile_pointer {inner : Shape} {s : Scalar} (hcore : inner.core = .scalar s)
    (hflat : Flat head) :
    compile lex (.optional inner) (head ++ Token.dive :: tail) = (do
      let head ← Segment.compile .pointer lex head
      return .pointer head (← ScalarConstraint.compile lex tail s)) := by
  rw [compile, hcore]
  simp only [Shape.scalar?, any_isDive_append, if_true, compilePointer, splitDive_append hflat,
    Option.getD_some]

theorem compilePointer_eq_ok_iff {inner : Shape} {s : Scalar} (hcore : inner.core = .scalar s)
    (hflat : Flat head) :
    compile lex (.optional inner) (head ++ Token.dive :: tail) = .ok c ↔
      WellFormed lex (.optional inner) (head ++ Token.dive :: tail) ∧
        c = ofTokens lex (.optional inner) (head ++ Token.dive :: tail) := by
  rw [compile_pointer hcore hflat, WellFormed.pointer_append_iff hcore hflat, ofTokens, hcore,
    splitDive_append hflat, bind_eq_ok_iff]
  constructor
  · rintro ⟨seg, hseg, h⟩
    obtain ⟨target, htarget, h⟩ := bind_eq_ok_iff.mp h
    obtain ⟨hhead, rfl⟩ := (Segment.compile_eq_ok_iff Dialect.pointer_speaks).mp hseg
    obtain ⟨htail, rfl⟩ := ScalarConstraint.compile_eq_ok_iff.mp htarget
    exact ⟨⟨hhead, htail⟩, (Except.ok.inj h).symm⟩
  · rintro ⟨⟨hhead, htail⟩, rfl⟩
    refine ⟨_, (Segment.compile_eq_ok_iff Dialect.pointer_speaks).mpr ⟨hhead, rfl⟩, ?_⟩
    exact bind_eq_ok_iff.mpr ⟨_, ScalarConstraint.compile_eq_ok_iff.mpr ⟨htail, rfl⟩, rfl⟩

theorem compileRecord_eq_ok_iff {tag : TypeTag} :
    compileRecord lex tokens = .ok c ↔
      WellFormed lex (.record tag) tokens ∧ c = ofTokens lex (.record tag) tokens := by
  rcases flat_or_eq_append tokens with hflat | ⟨head, tail, hflat, rfl⟩
  · rw [WellFormed.record_iff_of_flat hflat, compileRecord, ofTokens, splitDive_of_flat hflat]
    exact Segment.map_compile_eq_ok_iff Dialect.record_speaks
  · rw [WellFormed.record_append_iff hflat, compileRecord, ofTokens, splitDive_append hflat]
    cases tail with
    | nil =>
      simp only [and_true]
      exact Segment.map_compile_eq_ok_iff Dialect.record_speaks
    | cons t rest => exact ⟨nofun, nofun⟩

/-- Tokens are compiled for a shape if they are well formed for it, and then to what
they are read as. -/
theorem compile_eq_ok_iff (shape : Shape) :
    compile lex shape tokens = .ok c ↔
      WellFormed lex shape tokens ∧ c = ofTokens lex shape tokens := by
  induction shape generalizing tokens c with
  | scalar s =>
    rw [WellFormed.scalar_iff, compile, ofTokens, map_eq_ok_iff]
    simp only [ScalarConstraint.compile_eq_ok_iff]
    exact ⟨fun ⟨_, ⟨hform, rfl⟩, h⟩ => ⟨hform, h⟩, fun ⟨hform, h⟩ => ⟨_, ⟨hform, rfl⟩, h⟩⟩
  | optional inner ih =>
    rcases plain_or_pointer inner tokens with hplain | ⟨s, head, tail, hcore, hflat, rfl⟩
    · rw [compile_optional_of_plain hplain, ofTokens_optional_of_plain hplain,
        WellFormed.optional_iff_of_plain hplain]
      exact ih
    · exact compilePointer_eq_ok_iff hcore hflat
  | sequence element ih =>
    rcases flat_or_eq_append tokens with hflat | ⟨head, tail, hflat, rfl⟩
    · rw [compile_sequence_flat hflat, WellFormed.sequence_iff_of_flat hflat, ofTokens,
        splitDive_of_flat hflat]
      exact Segment.map_compile_eq_ok_iff Dialect.sequence_speaks
    · rw [compile, WellFormed.sequence_append_iff hflat, ofTokens, splitDive_append hflat,
        bind_eq_ok_iff]
      constructor
      · rintro ⟨seg, hseg, h⟩
        obtain ⟨element, helement, h⟩ := bind_eq_ok_iff.mp h
        obtain ⟨hhead, rfl⟩ := (Segment.compile_eq_ok_iff Dialect.sequence_speaks).mp hseg
        obtain ⟨htail, rfl⟩ := ih.mp helement
        exact ⟨⟨hhead, htail⟩, (Except.ok.inj h).symm⟩
      · rintro ⟨⟨hhead, htail⟩, rfl⟩
        refine ⟨_, (Segment.compile_eq_ok_iff Dialect.sequence_speaks).mpr ⟨hhead, rfl⟩, ?_⟩
        exact bind_eq_ok_iff.mpr ⟨_, ih.mpr ⟨htail, rfl⟩, rfl⟩
  | record tag => exact compileRecord_eq_ok_iff
  | inert =>
    exact ⟨fun h => ⟨.inert tokens, (Except.ok.inj h).symm⟩, fun h => by rw [h.2]; rfl⟩

end

variable {lex : Lexicon} {c : Constraint}

/-- The rules of a field as its annotation is read. -/
def ofText (lex : Lexicon) (shape : Shape) (text : String) : Constraint :=
  if text = "" then .unchecked else ofTokens lex shape (tokens text)

theorem ofAnnotation_of_ne {text : String} (hne : text ≠ "") (shape : Shape) :
    ofAnnotation lex shape text = compile lex shape (tokens text) := by
  have htokens := tokens_ne_nil hne
  unfold ofAnnotation
  split
  · next h => exact absurd h htokens
  · rfl

theorem ofAnnotation_eq_ok_iff {shape : Shape} {text : String} :
    ofAnnotation lex shape text = .ok c ↔
      (text = "" ∨ WellFormed lex shape (tokens text)) ∧
        c = ofText lex shape text := by
  by_cases hne : text = ""
  · subst hne
    exact ⟨fun h => ⟨.inl rfl, (Except.ok.inj h).symm⟩, fun h => by rw [h.2]; rfl⟩
  · rw [ofAnnotation_of_ne hne, compile_eq_ok_iff, ofText, if_neg hne]
    simp only [hne, false_or]

/-- Registration accepts an annotation if it is empty or its tokens are well formed
for the shape of the field. -/
theorem annotation_accepted_iff (lex : Lexicon) (shape : Shape) (text : String) :
    (∃ c, ofAnnotation lex shape text = .ok c) ↔
      text = "" ∨ WellFormed lex shape (tokens text) := by
  constructor
  · rintro ⟨c, h⟩
    exact (ofAnnotation_eq_ok_iff.mp h).1
  · exact fun h => ⟨_, ofAnnotation_eq_ok_iff.mpr ⟨h, rfl⟩⟩

end Constraint

end RecordValidation
