import RecordValidation.Proofs.Guard
import RecordValidation.Proofs.Naming

/-!
Calls of custom rules. Each level of an annotation stands at a station of the shape, and a
dive leads on to the next one. The custom rules of a constraint are the rules that the
tokens of its annotation call, each at the station of its level.
-/

namespace RecordValidation

open Annotation

/-- The rule that a token calls. A token with the name of a built-in rule calls none. -/
def Token.call? (rules : String → Option Rule) (t : Token) : Option NamedRule :=
  match Builtin.ofName? t.name with
  | some _ => none
  | none => (rules t.name).map (⟨t.name, ·⟩)

theorem RuleName.call?_eq {name : String} (h : RuleName name) (rules : String → Option Rule) :
    Token.call? rules ⟨name, none⟩ = (rules name).map (⟨name, ·⟩) := by
  rw [Token.call?, h.ofName?_eq_none]

theorem Token.eq_of_call? {rules : String → Option Rule} {t : Token} {r : NamedRule}
    (h : t.call? rules = some r) : r.name = t.name ∧ rules r.name = some r.rule := by
  unfold call? at h
  split at h
  · cases h
  · obtain ⟨rule, hrule, rfl⟩ := Option.map_eq_some_iff.mp h
    exact ⟨rfl, hrule⟩

namespace Shape

/-- The stations of an annotation that has a number of dives, in the order of its levels.
Where no dive leads to a level, its station is left over. -/
def stations : Shape → Nat → List Station
  | .scalar s, _ => [.scalar s]
  | .optional inner, dives =>
    match inner.core, dives with
    | .scalar s, _ + 1 => [.pointer, .scalar s]
    | _, _ => inner.stations dives
  | .sequence element, dives => .sequence :: element.stations (dives - 1)
  | .record _, _ => [.record]
  | .inert, _ => []

/-- The shape to which a number of dives lead, without the optional layers around it. -/
def within : Shape → Nat → Shape
  | .optional inner, dives => inner.within dives
  | .sequence element, dives + 1 => element.within dives
  | shape, _ => shape

end Shape

namespace Annotation

variable {rules : String → Option Rule} {tokens : List Token}

theorem dives_of_flat (h : Flat tokens) : tokens.countP Token.isDive = 0 :=
  List.countP_eq_zero.mpr fun t ht => by
    rw [h t ht]
    nofun

theorem dives_append_dive {head : List Token} (h : Flat head) (tail : List Token) :
    (head ++ Token.dive :: tail).countP Token.isDive = tail.countP Token.isDive + 1 := by
  rw [List.countP_append, dives_of_flat h, List.countP_cons_of_pos rfl, Nat.zero_add]

end Annotation

namespace Shape

theorem stations_optional_of_plain {inner : Shape} {tokens : List Token}
    (hplain : Flat tokens ∨ ∀ s, inner.core ≠ .scalar s) :
    (optional inner).stations (tokens.countP Token.isDive) =
      inner.stations (tokens.countP Token.isDive) := by
  rw [stations]
  intro s dives hcore hdives
  rcases hplain with hflat | hne
  · rw [dives_of_flat hflat] at hdives
    cases hdives
  · exact hne s hcore

theorem stations_pointer {inner : Shape} {s : Scalar} (hcore : inner.core = .scalar s)
    (dives : Nat) : (optional inner).stations (dives + 1) = [.pointer, .scalar s] := by
  simp only [stations, hcore]

end Shape

namespace Annotation

variable {rules : String → Option Rule} {tokens : List Token}

/-- The rules that tokens call at the stations that are still ahead. -/
def calls (rules : String → Option Rule) :
    List Station → List Token → List (Station × NamedRule)
  | _, [] => []
  | stations, t :: rest =>
    if t.isDive then calls rules stations.tail rest
    else
      (stations.head?.bind fun station => (t.call? rules).map (station, ·)).toList ++
        calls rules stations rest

theorem calls_nil_stations (tokens : List Token) : calls rules [] tokens = [] := by
  induction tokens with
  | nil => rfl
  | cons t rest ih =>
    rw [calls]
    split
    · exact ih
    · rw [ih]
      rfl

/-- What comes after some tokens is called at the stations to which their dives lead. -/
theorem calls_append (stations : List Station) (a b : List Token) :
    calls rules stations (a ++ b) =
      calls rules stations a ++ calls rules (stations.drop (a.countP Token.isDive)) b := by
  induction a generalizing stations with
  | nil => rfl
  | cons t rest ih =>
    rw [List.cons_append, calls, calls]
    by_cases ht : t.isDive = true
    · rw [if_pos ht, if_pos ht, ih, List.countP_cons_of_pos ht, List.drop_tail]
    · rw [if_neg ht, if_neg ht, ih, List.countP_cons_of_neg ht, List.append_assoc]

theorem calls_cons_of_call? {t : Token} {r : NamedRule} (ht : t.isDive = false)
    (hcall : t.call? rules = some r) (station : Station) (others : List Station) :
    calls rules (station :: others) (t :: tokens) =
      (station, r) :: calls rules (station :: others) tokens := by
  rw [calls, ht, if_neg Bool.false_ne_true, hcall]
  rfl

/-- Only tokens call rules. -/
theorem exists_token_of_mem_calls {stations : List Station} {station : Station} {r : NamedRule}
    (h : (station, r) ∈ calls rules stations tokens) : ∃ t ∈ tokens, t.call? rules = some r := by
  induction tokens generalizing stations with
  | nil => cases h
  | cons t rest ih =>
    have hlater {stations' : List Station} (h : (station, r) ∈ calls rules stations' rest) :
        ∃ t' ∈ t :: rest, t'.call? rules = some r := by
      obtain ⟨t', ht', hcall⟩ := ih h
      exact ⟨t', List.mem_cons_of_mem t ht', hcall⟩
    rw [calls] at h
    split at h
    · exact hlater h
    · rcases List.mem_append.mp h with h | h
      · obtain ⟨_, -, hfirst⟩ := Option.bind_eq_some_iff.mp (Option.mem_toList.mp h)
        obtain ⟨_, hcall, hpair⟩ := Option.map_eq_some_iff.mp hfirst
        cases hpair
        exact ⟨t, List.mem_cons_self, hcall⟩
      · exact hlater h

theorem calls_of_flat (h : Flat tokens) (station : Station) (others : List Station) :
    calls rules (station :: others) tokens =
      (tokens.filterMap (·.call? rules)).map (station, ·) := by
  induction tokens with
  | nil => rfl
  | cons t rest ih =>
    obtain ⟨ht, hrest⟩ := List.forall_mem_cons.mp h
    have hfirst : (t :: rest).filterMap (·.call? rules) =
        (t.call? rules).toList ++ rest.filterMap (·.call? rules) := by
      cases hcall : t.call? rules with
      | none => rw [List.filterMap_cons_none hcall, Option.toList_none, List.nil_append]
      | some r => rw [List.filterMap_cons_some hcall, Option.toList_some, List.singleton_append]
    rw [calls, ht, if_neg Bool.false_ne_true, ih hrest, hfirst, List.map_append,
      List.head?_cons, Option.bind_some, ← Option.toList_map]

/-- The levels before and after a dive call their rules at the first station and at the
others. -/
theorem calls_append_dive {head : List Token} (h : Flat head) (tail : List Token)
    (station : Station) (others : List Station) :
    calls rules (station :: others) (head ++ Token.dive :: tail) =
      (head.filterMap (·.call? rules)).map (station, ·) ++ calls rules others tail := by
  rw [calls_append, calls_of_flat h, dives_of_flat h]
  rfl

end Annotation

/-- The custom rules of a level are those that its tokens call. -/
theorem Segment.custom_ofTokens {β α : Type} (d : Dialect β α) (lex : Lexicon)
    (tokens : List Token) :
    (ofTokens d lex tokens).custom = tokens.filterMap (·.call? lex.rules.find?) := by
  show (tokens.filter fun t => (Builtin.ofName? t.name).isNone).filterMap _ = _
  rw [List.filterMap_filter]
  congr 1
  funext t
  unfold Token.call? RuleBook.bind?
  cases Builtin.ofName? t.name <;> rfl

namespace Constraint

variable {lex : Lexicon} {tokens : List Token}

theorem bindings_scalar (lex : Lexicon) (tokens : List Token) (s : Scalar) :
    (scalar (.ofTokens lex tokens s)).bindings =
      (tokens.filterMap (·.call? lex.rules.find?)).map (.scalar s, ·) := by
  cases s <;> exact congrArg (List.map _) (Segment.custom_ofTokens _ lex tokens)

/-- The custom rules of a constraint are those that the tokens of its annotation call. -/
theorem bindings_ofTokens {shape : Shape} (h : WellFormed lex shape tokens) :
    (ofTokens lex shape tokens).bindings =
      calls lex.rules.find? (shape.stations (tokens.countP Token.isDive)) tokens := by
  induction h with
  | inert tokens => rw [Shape.stations, calls_nil_stations, ofTokens, bindings]
  | scalar s tokens h => rw [Shape.stations, calls_of_flat h.flat, ofTokens, bindings_scalar]
  | sequence element tokens h =>
    rw [Shape.stations, calls_of_flat h.flat, ofTokens, splitDive_of_flat h.flat]
    dsimp only
    rw [bindings, bindings, List.append_nil, Segment.custom_ofTokens]
  | elements element head tail hhead htail ih =>
    rw [Shape.stations, calls_append_dive hhead.flat, ofTokens, splitDive_append hhead.flat,
      dives_append_dive hhead.flat, Nat.add_sub_cancel, ← ih]
    dsimp only
    rw [bindings, Segment.custom_ofTokens]
  | record tag tokens h =>
    rw [Shape.stations, calls_of_flat h.flat, ofTokens, splitDive_of_flat h.flat, bindings,
      Segment.custom_ofTokens]
  | dived tag head h =>
    rw [Shape.stations, calls_append_dive h.flat, ofTokens, splitDive_append h.flat, bindings,
      Segment.custom_ofTokens, calls, List.append_nil]
  | pointer inner s hcore head tail hhead htail ih =>
    rw [dives_append_dive hhead.flat, Shape.stations_pointer hcore, calls_append_dive hhead.flat,
      ofTokens_pointer hcore hhead.flat]
    have hflat := (WellFormed.scalar_iff.mp htail).flat
    have hscalar := bindings_scalar lex tail s
    rw [bindings] at hscalar
    rw [bindings, Segment.custom_ofTokens, calls_of_flat hflat, hscalar]
  | optional inner tokens hplain h ih =>
    rw [Shape.stations_optional_of_plain hplain, ofTokens_optional_of_plain hplain, ih]

end Constraint

/-- The rules that the annotation of a field calls. -/
def FieldDecl.calls (rules : String → Option Rule) : FieldDecl → List (Station × NamedRule)
  | .checked _ type text =>
    Annotation.calls rules (type.shape.stations ((tokens text).countP Token.isDive)) (tokens text)
  | .skipped _ => []

theorem FieldPlan.bindings_ofDecl {lex : Lexicon} {decl : FieldDecl} (h : decl.Accepted lex)
    (owner : TypeTag) :
    (FieldPlan.ofDecl lex owner decl).constraint.bindings = decl.calls lex.rules.find? := by
  cases decl with
  | skipped name => rfl
  | checked name type text =>
    rw [ofDecl, FieldDecl.calls, Constraint.ofText]
    by_cases hempty : text = ""
    · subst hempty
      rfl
    · rw [if_neg hempty]
      exact Constraint.bindings_ofTokens (h.resolve_left hempty)

theorem FieldDecl.exists_token_of_mem_calls {rules : String → Option Rule} {decl : FieldDecl}
    {station : Station} {r : NamedRule} (h : (station, r) ∈ decl.calls rules) :
    ∃ t ∈ decl.ruleTokens, t.call? rules = some r := by
  cases decl with
  | skipped name => cases h
  | checked name type text => exact Annotation.exists_token_of_mem_calls h

/-- The custom rules of a type are those that its annotations call. -/
theorem Enrolment.bindings_fields {e : Enrolment}
    (h : ∀ decl ∈ e.type.fields, decl.Accepted e.lexicon) :
    e.blueprint.fields.map (·.constraint.bindings) =
      e.type.fields.map (·.calls e.lexicon.rules.find?) := by
  have hfields : e.blueprint.fields = e.type.fields.map (.ofDecl e.lexicon e.type.tag) := rfl
  rw [hfields, List.map_map]
  exact List.map_congr_left fun decl hdecl => FieldPlan.bindings_ofDecl (h decl hdecl) e.type.tag

namespace Annotation

/-- A token other than a dive stands before the first dive or behind it. -/
theorem before_or_behind_dive {head tail before after : List Token} {t : Token}
    (ht : t.isDive = false) (h : head ++ Token.dive :: tail = before ++ t :: after) :
    (∃ rest, head = before ++ t :: rest) ∨
      ∃ middle, before = head ++ Token.dive :: middle ∧ tail = middle ++ t :: after := by
  have hne : Token.dive ≠ t := by
    rintro rfl
    cases ht
  rcases List.append_eq_append_iff.mp h with ⟨middle, hbefore, hrest⟩ | ⟨rest, hhead, hrest⟩
  · cases middle with
    | nil =>
      cases hrest
      exact absurd rfl hne
    | cons first middle =>
      cases hrest
      exact .inr ⟨middle, hbefore, rfl⟩
  · cases rest with
    | nil =>
      cases hrest
      exact absurd rfl hne
    | cons first rest =>
      cases hrest
      exact .inl ⟨rest, hhead⟩

theorem flat_of_append {before after : List Token} (h : Flat (before ++ after)) : Flat before :=
  fun t ht => h t (List.mem_append_left after ht)

end Annotation

/-- There is a station wherever something can be checked. -/
theorem WellFormed.exists_station {lex : Lexicon} {shape : Shape} {tokens : List Token}
    (h : WellFormed lex shape tokens) {before after : List Token} {t : Token}
    (htokens : tokens = before ++ t :: after) (ht : t.isDive = false)
    (hshape : shape.within (before.countP Token.isDive) ≠ .inert) :
    ∃ station others, (shape.stations (tokens.countP Token.isDive)).drop
      (before.countP Token.isDive) = station :: others := by
  induction h generalizing before with
  | inert tokens => exact absurd rfl hshape
  | scalar s tokens h =>
    rw [dives_of_flat (flat_of_append (htokens ▸ h.flat))]
    exact ⟨_, _, rfl⟩
  | sequence element tokens h =>
    rw [dives_of_flat (flat_of_append (htokens ▸ h.flat))]
    exact ⟨_, _, rfl⟩
  | elements element head tail hhead htail ih =>
    rcases before_or_behind_dive ht htokens with ⟨rest, rfl⟩ | ⟨middle, rfl, rfl⟩
    · rw [dives_of_flat (flat_of_append hhead.flat)]
      exact ⟨_, _, rfl⟩
    · rw [dives_append_dive hhead.flat] at hshape ⊢
      rw [dives_append_dive hhead.flat]
      exact ih rfl hshape
  | record tag tokens h =>
    rw [dives_of_flat (flat_of_append (htokens ▸ h.flat))]
    exact ⟨_, _, rfl⟩
  | dived tag head h =>
    rcases before_or_behind_dive ht htokens with ⟨rest, rfl⟩ | ⟨middle, -, htail⟩
    · rw [dives_of_flat (flat_of_append h.flat)]
      exact ⟨_, _, rfl⟩
    · cases middle <;> cases htail
  | pointer inner s hcore head tail hhead htail ih =>
    rw [dives_append_dive hhead.flat, Shape.stations_pointer hcore]
    rcases before_or_behind_dive ht htokens with ⟨rest, rfl⟩ | ⟨middle, rfl, rfl⟩
    · rw [dives_of_flat (flat_of_append hhead.flat)]
      exact ⟨_, _, rfl⟩
    · have hflat := (WellFormed.scalar_iff.mp htail).flat
      rw [dives_append_dive hhead.flat, dives_of_flat (flat_of_append hflat)]
      exact ⟨_, _, rfl⟩
  | optional inner tokens hplain h ih =>
    rw [Shape.stations_optional_of_plain hplain]
    exact ih htokens hshape

end RecordValidation
