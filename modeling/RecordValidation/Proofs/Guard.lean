import RecordValidation.Proofs.Compilation

/-!
Guards on custom rules. A rule stands at a station, which is where its token stands
in the annotation. Behind a guard it is only applied to values that its station is
meant for; to any other value something else is done instead. A survey that never
applies a rule to another value can not tell guarded rules from bare ones.
-/

namespace RecordValidation

/-- The values that the rules of a station are meant for. In a place that is not
nullable, the zero of a scalar is not present and so not among them. -/
def Station.accepts : Station → Bool → Value → Bool
  | .scalar s, nullable, value => value.kind == s.kind && (nullable || !value.isZero)
  | .sequence, _, value => value.kind == .sequence
  | .record, _, value => value.kind == .record
  | .pointer, _, .just _ => true
  | .pointer, _, _ => false

/-- A rule for values of one kind, at a station for this kind. -/
def Station.Typed : Station → Rule → Prop
  | .scalar .text, rule => ∃ check, rule = .ofText check
  | .scalar .integer, rule => ∃ check, rule = .ofInteger check
  | .scalar .float, rule => ∃ check, rule = .ofFloat check
  | _, _ => False

theorem Station.Typed.answers {station : Station} {rule : Rule} (h : station.Typed rule)
    {nullable : Bool} {value : Value} (haccepts : station.accepts nullable value = true)
    (label : String) : ∃ found, rule label value = .ok found := by
  cases station with
  | scalar s =>
    simp only [accepts, Bool.and_eq_true, beq_iff_eq] at haccepts
    cases s with
    | text =>
      obtain ⟨check, rfl⟩ := h
      cases value with
      | text x => exact ⟨_, rfl⟩
      | _ => cases haccepts.1
    | integer =>
      obtain ⟨check, rfl⟩ := h
      cases value with
      | integer n => exact ⟨_, rfl⟩
      | _ => cases haccepts.1
    | float =>
      obtain ⟨check, rfl⟩ := h
      cases value with
      | float x => exact ⟨_, rfl⟩
      | _ => cases haccepts.1
    | time => exact h.elim
  | sequence => exact h.elim
  | pointer => exact h.elim
  | record => exact h.elim

/-- The rule behind a guard that raises an alarm at all other values. -/
def NamedRule.guarded (alarm : Rule) (accepts : Value → Bool) (r : NamedRule) : NamedRule where
  name := r.name
  rule label value := if accepts value then r.rule label value else alarm label value

def Segment.guarded {β α : Type} (alarm : Rule) (accepts : Value → Bool) (s : Segment β α) :
    Segment β α :=
  { s with custom := s.custom.map (.guarded alarm accepts) }

/-- Whether a shape has an optional layer, within which zeros are present. -/
def Shape.nullable : Shape → Bool
  | .optional _ => true
  | _ => false

namespace ScalarConstraint

def station : ScalarConstraint → Station
  | .text _ => .scalar .text
  | .integer _ => .scalar .integer
  | .float _ => .scalar .float
  | .time _ => .scalar .time

def custom : ScalarConstraint → List NamedRule
  | .text s => s.custom
  | .integer s => s.custom
  | .float s => s.custom
  | .time s => s.custom

def guarded (alarm : Rule) (nullable : Bool) : ScalarConstraint → ScalarConstraint
  | .text s => .text (s.guarded alarm ((Station.scalar .text).accepts nullable))
  | .integer s => .integer (s.guarded alarm ((Station.scalar .integer).accepts nullable))
  | .float s => .float (s.guarded alarm ((Station.scalar .float).accepts nullable))
  | .time s => .time (s.guarded alarm ((Station.scalar .time).accepts nullable))

theorem required_guarded (alarm : Rule) (nullable : Bool) (target : ScalarConstraint) :
    (target.guarded alarm nullable).required = target.required := by
  cases target <;> rfl

end ScalarConstraint

namespace Constraint

/-- The constraint with all custom rules behind guards. -/
def guarded (alarm : Rule) : Shape → Bool → Constraint → Constraint
  | .scalar _, nullable, .scalar target => .scalar (target.guarded alarm nullable)
  | .optional inner, _, .pointer head target =>
    .pointer (head.guarded alarm (Station.pointer.accepts false))
      (target.guarded alarm inner.nullable)
  | .optional inner, _, c => guarded alarm inner true c
  | .sequence element, _, .sequence head c =>
    .sequence (head.guarded alarm (Station.sequence.accepts false)) (guarded alarm element false c)
  | .record _, _, .record head => .record (head.guarded alarm (Station.record.accepts false))
  | _, _, c => c

/-- The custom rules of a constraint, with the stations that they stand at. -/
def bindings : Constraint → List (Station × NamedRule)
  | .unchecked => []
  | .scalar target => target.custom.map (target.station, ·)
  | .pointer head target =>
    head.custom.map (.pointer, ·) ++ target.custom.map (target.station, ·)
  | .sequence head element => head.custom.map (.sequence, ·) ++ element.bindings
  | .record head => head.custom.map (.record, ·)

/-- The constraints that can come from annotations for a shape. -/
inductive Suits : Constraint → Shape → Prop
  | unchecked (shape : Shape) : Suits .unchecked shape
  | scalar {s : Scalar} {target : ScalarConstraint} (h : target.station = .scalar s) :
      Suits (.scalar target) (.scalar s)
  | optional {inner : Shape} {c : Constraint} (h : Suits c inner)
      (hne : ∀ head target, c ≠ .pointer head target) : Suits c (.optional inner)
  | pointer {inner : Shape} {s : Scalar} {head : Segment Empty Empty}
      {target : ScalarConstraint} (hcore : inner.core = .scalar s)
      (h : target.station = .scalar s) : Suits (.pointer head target) (.optional inner)
  | sequence {element : Shape} {head : Segment Nat Empty} {c : Constraint}
      (h : Suits c element) : Suits (.sequence head c) (.sequence element)
  | record {tag : TypeTag} {head : Segment Empty Empty} : Suits (.record head) (.record tag)

theorem ofTokens_suits (lex : Lexicon) (shape : Shape) (tokens : List Token) :
    (ofTokens lex shape tokens).Suits shape := by
  induction shape generalizing tokens with
  | scalar s =>
    refine .scalar ?_
    cases s <;> rfl
  | optional inner ih =>
    rcases plain_or_pointer inner tokens with hplain | ⟨s, head, tail, hcore, hflat, rfl⟩
    · rw [ofTokens_optional_of_plain hplain]
      exact .optional (ih tokens) (ofTokens_ne_pointer hplain)
    · rw [ofTokens_pointer hcore hflat]
      refine .pointer hcore ?_
      cases s <;> rfl
  | sequence element ih =>
    rw [ofTokens]
    split
    · next head tail hsplit => exact .sequence (ih tail)
    · next head hsplit => exact .sequence (.unchecked element)
  | record tag => exact .record
  | inert => exact .unchecked .inert

variable {alarm : Rule} {shape : Shape} {c : Constraint}

theorem guarded_unchecked (nullable : Bool) :
    guarded alarm shape nullable .unchecked = .unchecked := by
  induction shape generalizing nullable with
  | optional inner ih => exact ih true
  | _ => rfl

theorem guarded_optional {inner : Shape} (hne : ∀ head target, c ≠ .pointer head target)
    (nullable : Bool) :
    c.guarded alarm (.optional inner) nullable = c.guarded alarm inner true := by
  cases c with
  | pointer head target => exact absurd rfl (hne head target)
  | _ => rfl

theorem guarded_ne_pointer (hne : ∀ head target, c ≠ .pointer head target) (nullable : Bool)
    (head : Segment Empty Empty) (target : ScalarConstraint) :
    c.guarded alarm shape nullable ≠ .pointer head target := by
  induction shape generalizing nullable with
  | optional inner ih =>
    rw [guarded_optional hne]
    exact ih true
  | _ =>
    cases c with
    | pointer head target => exact absurd rfl (hne head target)
    | _ => nofun

end Constraint

/-- The plan of a declared field with its custom rules behind guards. -/
def FieldPlan.guardedOfDecl (alarm : Rule) (lex : Lexicon) (owner : TypeTag) :
    FieldDecl → FieldPlan
  | .skipped name => .ofDecl lex owner (.skipped name)
  | .checked name type rules =>
    ⟨owner, name, (Constraint.ofText lex type.shape rules).guarded alarm type.shape false⟩

/-- The blueprint of an enrolment with its custom rules behind guards. -/
def Enrolment.guardedBlueprint (alarm : Rule) (e : Enrolment) : Blueprint :=
  { e.blueprint with
    fields := e.type.fields.map (.guardedOfDecl alarm e.lexicon e.type.tag) }

/-- Whether a rule stands at a station of a blueprint. -/
def Blueprint.Binds (b : Blueprint) (station : Station) (r : NamedRule) : Prop :=
  ∃ plan ∈ b.fields, (station, r) ∈ plan.constraint.bindings

/-- The inquiries that come up with well-shaped records: custom rules at the stations
they are bound to, and no refusal but for the depth. -/
def Inquiry.Sound (binds : Station → NamedRule → Prop) : Inquiry → Prop
  | .custom _ value station r => binds station r ∧ station.accepts true value = true
  | .refusal _ f => ∃ label limit, f = .tooDeep label limit
  | _ => True

/-- An agenda with guarded rules beside the bare one: their transcripts are equal, and
the bare one is sound. -/
structure Alike (binds : Station → NamedRule → Prop) (guarded bare : List Inquiry) : Prop where
  transcript_eq : Transcript.ofInquiries guarded = Transcript.ofInquiries bare
  sound : ∀ q ∈ bare, q.Sound binds

namespace Alike

open Inquiry

variable {binds : Station → NamedRule → Prop} {place : Place} {value : Value}

theorem of_sound {l : List Inquiry} (h : ∀ q ∈ l, q.Sound binds) : Alike binds l l := ⟨rfl, h⟩

theorem nil : Alike binds [] [] := of_sound nofun

theorem append {a a' b b' : List Inquiry} (ha : Alike binds a' a) (hb : Alike binds b' b) :
    Alike binds (a' ++ b') (a ++ b) := by
  constructor
  · rw [Transcript.ofInquiries_append, Transcript.ofInquiries_append, ha.transcript_eq,
      hb.transcript_eq]
  · intro q hq
    rcases List.mem_append.mp hq with hq | hq
    · exact ha.sound q hq
    · exact hb.sound q hq

theorem absence (required : Bool) (value : Value) :
    Alike binds (ofAbsence required place value) (ofAbsence required place value) := by
  apply of_sound
  cases required with
  | false => nofun
  | true =>
    intro q hq
    rw [List.mem_singleton.mp hq]
    trivial

theorem answer_guarded {alarm : Rule} {accepts : Value → Bool} (h : accepts value = true)
    (station : Station) (r : NamedRule) :
    answer (.custom place value station (r.guarded alarm accepts)) =
      answer (.custom place value station r) := by
  simp only [answer, NamedRule.guarded, h, if_true]

theorem accepts_of_accepts {station : Station} {nullable : Bool}
    (h : station.accepts nullable value = true) : station.accepts true value = true := by
  cases station with
  | scalar s =>
    simp only [Station.accepts, Bool.and_eq_true, Bool.true_or, and_true] at h ⊢
    exact h.1
  | pointer => cases value <;> exact h
  | _ => exact h

/-- Guards make no difference at a value that the station is meant for. -/
theorem rules {alarm : Rule} {station : Station} {nullable : Bool} {rules : List NamedRule}
    (haccepts : station.accepts nullable value = true) (hbinds : ∀ r ∈ rules, binds station r) :
    Alike binds
      (ofRules place value station (rules.map (.guarded alarm (station.accepts nullable))))
      (ofRules place value station rules) := by
  induction rules with
  | nil => exact nil
  | cons r rest ih =>
    obtain ⟨hr, hrest⟩ := List.forall_mem_cons.mp hbinds
    have hrules := ih hrest
    constructor
    · rw [ofRules, ofRules, List.map_cons, List.map_cons, List.map_cons, Transcript.ofInquiries,
        Transcript.ofInquiries, answer_guarded haccepts]
      exact congrArg (Transcript.andThen _) hrules.transcript_eq
    · intro q hq
      rcases List.mem_cons.mp hq with rfl | hq
      · exact ⟨hr, accepts_of_accepts haccepts⟩
      · exact hrules.sound q hq

theorem segment {β α : Type} {alarm : Rule} {station : Station} {nullable : Bool}
    {seg : Segment β α} {g : Gauge β α} (haccepts : station.accepts nullable value = true)
    (hbinds : ∀ r ∈ seg.custom, binds station r) :
    Alike binds
      (ofSegment station (seg.guarded alarm (station.accepts nullable)) g place value)
      (ofSegment station seg g place value) := by
  refine append (of_sound ?_) (rules haccepts hbinds)
  intro q hq
  obtain ⟨v, -, rfl⟩ := List.mem_map.mp hq
  trivial

end Alike

end RecordValidation
