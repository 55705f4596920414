import RecordValidation.Proofs.Interpreter

/-!
The rules of one level. Their segment is measured by a gauge, and the interpreter
looks them up among the tokens; both find the same violations, and both apply the
same custom rules after them.
-/

namespace RecordValidation

/-- A gauge in which values fail the rules of a dialect when they fail them as the
interpreter reads these. -/
structure Gauge.Measures {β α : Type} (g : Gauge β α) (d : Dialect β α) (now : Instant)
    (value : Value) : Prop where
  greatest : ∀ arg,
    value.complaint now .greatest arg = objection (d.bound? arg) g.above g.aboveText
  least : ∀ arg, value.complaint now .least arg = objection (d.bound? arg) g.below g.belowText
  pattern : ∀ arg, value.complaint now .pattern arg =
    objection (d.pattern? arg) (!g.fits ·) (fun p => "must match regex /" ++ p.text ++ "/")
  member : ∀ arg, value.complaint now .member arg =
    objection (d.members? arg) (!·.any g.equals)
      fun members => "must be in [" ++ ", ".intercalate (members.map g.memberText) ++ "]"

theorem toOption_mapM {ε α β : Type} (f : α → Except ε β) (l : List α) :
    (l.mapM f).toOption = l.mapM fun a => (f a).toOption := by
  induction l with
  | nil => rfl
  | cons a rest ih =>
    rw [List.mapM_cons, List.mapM_cons, ← ih]
    cases f a with
    | error e => rfl
    | ok b => cases rest.mapM f <;> rfl

namespace Dialect

theorem toOption_listed {α : Type} (read : String → Except Malformed α) (arg : String) :
    (Segment.listed read arg).toOption =
      (Token.items arg).mapM fun item => (read item).toOption := by
  unfold Segment.listed Token.items
  rw [List.mapM_map]
  exact toOption_mapM _ _

end Dialect

namespace Gauge

open Dialect

variable (now : Instant)

theorem contains_eq_any {α : Type} [BEq α] [LawfulBEq α] (l : List α) (a : α) :
    l.contains a = l.any (· == a) := by
  rw [List.contains_eq_any_beq]
  simp only [Bool.beq_comm]

theorem text_measures (s : String) : (text s).Measures .text now (.text s) where
  greatest arg := by
    rw [bound?_text]
    rfl
  least arg := by
    rw [bound?_text]
    rfl
  pattern arg := rfl
  member arg := by
    have hitems : (Segment.listed .ok arg).toOption = some (Token.items arg) := by
      rw [toOption_listed]
      exact (List.mapM_pure (m := Option)).trans (congrArg some (List.map_id _))
    show _ = objection (Segment.listed .ok arg).toOption (!·.any (· == s)) fun items =>
      "must be in [" ++ ", ".intercalate (items.map id) ++ "]"
    simp only [hitems, Value.complaint, contains_eq_any, List.map_id]

theorem whole_measures (n : Int) : (whole n).Measures .whole now (.integer n) where
  greatest arg := by
    rw [bound?_whole]
    rfl
  least arg := by
    rw [bound?_whole]
    rfl
  pattern arg := rfl
  member arg := by
    show _ = objection (Segment.listed integer arg).toOption (!·.any (· == n)) _
    simp only [toOption_listed, toOption_integer, Value.complaint, contains_eq_any]
    rfl

theorem float_measures (x : Float) : (float x).Measures .float now (.float x) where
  greatest arg := by
    rw [bound?_float]
    rfl
  least arg := by
    rw [bound?_float]
    rfl
  pattern arg := rfl
  member arg := rfl

theorem time_measures (t : Instant) :
    (time (t.ageAt now)).Measures .time now (.time t) where
  greatest arg := by
    rw [bound?_time]
    rfl
  least arg := by
    rw [bound?_time]
    rfl
  pattern arg := rfl
  member arg := rfl

theorem sequence_measures (items : List Value) :
    (sequence items.length).Measures .sequence now (.sequence items) where
  greatest arg := by
    rw [bound?_sequence]
    rfl
  least arg := by
    rw [bound?_sequence]
    rfl
  pattern arg := rfl
  member arg := rfl

end Gauge

namespace Transcript

theorem ofInquiries_builtin (place : Place) (value : Value) (vs : List Violation) :
    ofInquiries (vs.map (.builtin place value)) = ⟨vs, none⟩ := by
  induction vs with
  | nil => rfl
  | cons v rest ih =>
    rw [List.map_cons, ofInquiries, ih]
    rfl

end Transcript

/-- A rule that is first read and then tested fails as the interpreter has it. -/
theorem toList_ruleArgument? {γ : Type} {read : String → Option γ} {fails : γ → Bool}
    {text : γ → String} {complain : String → Option String}
    (h : ∀ arg, complain arg = objection (read arg) fails text) (b : Builtin)
    (tokens : List Token) (v : String → Violation) :
    (((ruleArgument? read b tokens).filter fails).map fun a => v (text a)).toList =
      (ruleArgument? complain b tokens).toList.map v := by
  unfold ruleArgument?
  cases (tokens.find? (·.is b)).bind Token.argument? with
  | none => rfl
  | some arg =>
    rw [Option.bind_some, Option.bind_some, h arg, objection]
    cases (read arg).filter fails <;> rfl

section

variable {β α : Type} {d : Dialect β α} {g : Gauge β α} {lex : Lexicon} {r : Interpreter}
  {place : Place} {label : String} {value : Value}

theorem failures_ofTokens (hg : g.Measures d r.now value) (tokens : List Token) :
    (Segment.ofTokens d lex tokens).failures g label =
      (r.builtin label value tokens).found := by
  unfold Segment.failures Segment.ofTokens Interpreter.builtin
  dsimp only
  rw [toList_ruleArgument? hg.greatest .greatest tokens (Segment.violation label · _),
    toList_ruleArgument? hg.least .least tokens (Segment.violation label · _),
    toList_ruleArgument? hg.pattern .pattern tokens (Segment.violation label · _),
    toList_ruleArgument? hg.member .member tokens (Segment.violation label · _)]
  simp only [List.flatMap_cons, List.flatMap_nil, List.append_nil, List.append_assoc]
  rfl

theorem ofAnswer_custom (hplace : place.path? = some label) (station : Station)
    (name : String) (rule : Rule) :
    Transcript.ofAnswer (Inquiry.answer (.custom place value station ⟨name, rule⟩)) =
      .ofFinding (⟨label, ·, name⟩) (.rule label name) (rule label value) := by
  simp only [Inquiry.answer, Place.label_of_path? hplace]
  cases rule label value with
  | error source => rfl
  | ok found => cases found <;> rfl

theorem ofRules_ofTokens (hplace : place.path? = some label) (station : Station)
    (tokens : List Token) :
    Transcript.ofInquiries
        (Inquiry.ofRules place value station (Segment.ofTokens d lex tokens).custom) =
      Interpreter.custom lex label value tokens := by
  induction tokens with
  | nil => rfl
  | cons t rest ih =>
    rw [Interpreter.custom, ← ih]
    simp only [Segment.ofTokens, List.filter_cons]
    cases Builtin.ofName? t.name with
    | some b => rfl
    | none =>
      simp only [Option.isNone_none, if_true, List.filterMap_cons, RuleBook.bind?]
      cases lex.rules.find? t.name with
      | none => rfl
      | some rule =>
        exact congrArg (Transcript.andThen · _) (ofAnswer_custom hplace station t.name rule)

theorem ofSegment_ofTokens (hplace : place.path? = some label)
    (hg : g.Measures d r.now value) (station : Station) (tokens : List Token) :
    Transcript.ofInquiries
        (Inquiry.ofSegment station (Segment.ofTokens d lex tokens) g place value) =
      r.level lex label value tokens := by
  unfold Inquiry.ofSegment Interpreter.level
  rw [Place.label_of_path? hplace, Transcript.ofInquiries_append, failures_ofTokens hg,
    Transcript.ofInquiries_builtin, ofRules_ofTokens hplace]
  rfl

end

end RecordValidation
