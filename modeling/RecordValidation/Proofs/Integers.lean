import RecordValidation.Proofs.Age
import RecordValidation.Proofs.Layers
import RecordValidation.Proofs.Literals

/-!
Rules for whole numbers. Values are capped at the greatest whole number that can be told
apart, and the numbers in annotations are read digit by digit in a range of their own. None
of this shows: with bounds and members below that greatest number, a value of any size is
judged by what it is.
-/

namespace RecordValidation

open Annotation Numeral

theorem Builtin.name_injective : Function.Injective Builtin.name := by
  intro b b' h
  have hb' := b'.ofName?_name
  rw [← h, b.ofName?_name] at hb'
  exact Option.some.inj hb'

theorem mem_of_mem_intercalate {α : Type} {separator a : α} {parts : List (List α)}
    (h : a ∈ [separator].intercalate parts) : a = separator ∨ ∃ part ∈ parts, a ∈ part := by
  induction parts with
  | nil => cases h
  | cons part rest ih =>
    cases rest with
    | nil =>
      rw [List.intercalate_singleton] at h
      exact .inr ⟨part, List.mem_cons_self, h⟩
    | cons next rest =>
      rw [List.intercalate_cons_cons, List.mem_append, List.mem_append] at h
      rcases h with (h | h) | h
      · exact .inr ⟨part, List.mem_cons_self, h⟩
      · exact .inl (List.mem_singleton.mp h)
      · exact (ih h).imp_right fun ⟨part', hpart', h⟩ =>
          ⟨part', List.mem_cons_of_mem part hpart', h⟩

theorem mapM_eq_ok {ε α β : Type} {f : α → Except ε β} {g : α → β} {l : List α}
    (h : ∀ a ∈ l, f a = .ok (g a)) : l.mapM f = .ok (l.map g) := by
  induction l with
  | nil => rfl
  | cons a rest ih =>
    obtain ⟨ha, hrest⟩ := List.forall_mem_cons.mp h
    rw [List.mapM_cons, ha, ih hrest]
    rfl

theorem toList_map_filter_map {o : Option Literal} {p : Int → Bool} {q : Literal → Bool}
    (h : ∀ l ∈ o, p l.value = q l) (f : Int → Violation) :
    (((o.map Literal.value).filter p).map f).toList = (o.toList.filter q).map (f ·.value) := by
  cases o with
  | none => rfl
  | some l =>
    have hl := h l rfl
    cases hq : q l <;> simp [hl, hq]

/-- The cap is no zero, so it makes none. -/
theorem isZero_view {n : Int} : (Datum.integer n).view.isZero = true ↔ n = 0 := by
  have hpositive : 0 < greatestInteger := by decide
  rw [Datum.view, Value.isZero, beq_iff_eq]
  omega

/-- Rules for a whole number, with their numbers as they are written. Each of the rules can
be missing; a list of members that is missing is empty. -/
structure IntegerRules where
  least : Option Literal := none
  greatest : Option Literal := none
  members : List Literal := []

namespace IntegerRules

variable (r : IntegerRules)

def literals : List Literal := r.least.toList ++ r.greatest.toList ++ r.members

/-- Rules whose numbers are all below the greatest one. -/
def Fits : Prop := ∀ l ∈ r.literals, leastInteger ≤ l.value ∧ l.value < greatestInteger

/-- What a rule is written with. -/
def argument? : Builtin → Option String
  | .least => r.least.map Literal.text
  | .greatest => r.greatest.map Literal.text
  | .member =>
    match r.members with
    | [] => none
    | members => some (",".intercalate (members.map Literal.text))
  | _ => none

/-- The rules as an annotation. -/
def text : String :=
  "|".intercalate ([.least, .greatest, .member].filterMap fun b : Builtin =>
    (r.argument? b).map (b.name ++ ":" ++ ·))

/-- What is to be reported of a value, by comparing numbers. -/
def reports (label : String) (n : Int) : List Violation :=
  (r.greatest.toList.filter (·.value < n)).map (fun hi => Segment.violation label
    ("can not be greater than " ++ toString hi.value) Violation.greatestCode) ++
  (r.least.toList.filter (n < ·.value)).map (fun lo => Segment.violation label
    ("must be at least " ++ toString lo.value) Violation.leastCode) ++
  if r.members ≠ [] ∧ ∀ a ∈ r.members, a.value ≠ n then
    [Segment.violation label
      ("must be in [" ++ ", ".intercalate (r.members.map (toString ·.value)) ++ "]")
      Violation.memberCode]
  else []

/-- The tokens of the annotation. -/
def level : List Token :=
  [.least, .greatest, .member].filterMap fun b : Builtin =>
    (r.argument? b).map fun arg => ⟨b.name, some arg⟩

theorem text_eq_ofTokens : r.text = ofTokens r.level := by
  have htext (b : Builtin) (arg : String) :
      Token.text ⟨b.name, some arg⟩ = b.name ++ ":" ++ arg := by
    rw [← String.toList_inj, Token.text, Token.chars, String.toList_ofList, String.toList_append,
      String.toList_append, List.append_assoc]
    rfl
  rw [ofTokens_eq_intercalate, text, level, List.map_filterMap]
  simp only [Option.map_map, Function.comp_def, htext]

variable {r} {b : Builtin} {arg : String} {t : Token}

theorem argument?_member {l : Literal} {rest : List Literal} (h : r.members = l :: rest) :
    r.argument? .member = some (",".intercalate ((l :: rest).map Literal.text)) := by
  rw [argument?, h]

theorem mem_level_iff :
    t ∈ r.level ↔ ∃ b arg, r.argument? b = some arg ∧ t = ⟨b.name, some arg⟩ := by
  simp only [level, List.mem_filterMap, Option.map_eq_some_iff]
  constructor
  · rintro ⟨b, -, arg, harg, rfl⟩
    exact ⟨b, arg, harg, rfl⟩
  · rintro ⟨b, arg, harg, rfl⟩
    refine ⟨b, ?_, arg, harg, rfl⟩
    cases b with
    | least | greatest | member => decide
    | required | pattern | dive => cases harg

theorem mk_mem_level_iff : ⟨b.name, some arg⟩ ∈ r.level ↔ r.argument? b = some arg := by
  rw [mem_level_iff]
  constructor
  · rintro ⟨b', arg', harg, h⟩
    obtain rfl : b = b' := Builtin.name_injective (congrArg Token.name h)
    cases h
    exact harg
  · intro h
    exact ⟨b, arg, h, rfl⟩

theorem comma_not_mem (l : Literal) : ',' ∉ l.chars := by
  intro h
  rcases l.isDigit_or_sign_of_mem h with h | h | h <;> cases h

theorem bar_not_mem (l : Literal) : '|' ∉ l.chars := by
  intro h
  rcases l.isDigit_or_sign_of_mem h with h | h | h <;> cases h

/-- Commas stand between the members of a list and nowhere else. -/
theorem pieces_argument (h : r.argument? .member = some arg) :
    pieces ',' arg.toList = r.members.map Literal.chars := by
  cases hmembers : r.members with
  | nil =>
    rw [argument?, hmembers] at h
    cases h
  | cons l rest =>
    rw [argument?_member hmembers] at h
    cases h
    have htext : (l :: rest).map (String.toList ∘ Literal.text) = (l :: rest).map Literal.chars :=
      List.map_congr_left fun l _ => l.toList_text
    rw [String.toList_intercalate, List.map_map, htext, pieces_eq_splitOn]
    refine List.splitOn_intercalate ',' ?_ (by simp)
    intro chars hchars
    obtain ⟨l', -, rfl⟩ := List.mem_map.mp hchars
    exact comma_not_mem l'

theorem bar_not_mem_argument (h : r.argument? b = some arg) : '|' ∉ arg.toList := by
  cases b with
  | least | greatest =>
    obtain ⟨l, -, rfl⟩ := Option.map_eq_some_iff.mp h
    rw [l.toList_text]
    exact bar_not_mem l
  | member =>
    rw [← glue_pieces ',' arg.toList, pieces_argument h, glue_eq_intercalate]
    intro hmem
    rcases mem_of_mem_intercalate hmem with hmem | ⟨chars, hchars, hmem⟩
    · cases hmem
    · obtain ⟨l, -, rfl⟩ := List.mem_map.mp hchars
      exact bar_not_mem l hmem
  | required | pattern | dive => cases h

theorem argument_ne_empty (h : r.argument? b = some arg) : arg ≠ "" := by
  rintro rfl
  cases b with
  | least | greatest =>
    obtain ⟨l, -, hl⟩ := Option.map_eq_some_iff.mp h
    have hchars := l.toList_text
    rw [hl] at hchars
    exact l.chars_ne_nil hchars.symm
  | member =>
    have hpieces := pieces_argument h
    have hmem : [] ∈ r.members.map Literal.chars := by
      rw [← hpieces]
      decide
    obtain ⟨l, -, hl⟩ := List.mem_map.mp hmem
    exact l.chars_ne_nil hl
  | required | pattern | dive => cases h

variable (r) in
theorem tokens_text : tokens r.text = r.level := by
  rw [r.text_eq_ofTokens, tokens_ofTokens_iff]
  · intro h
    have hmem : ⟨"", none⟩ ∈ r.level := by
      rw [h]
      exact List.mem_singleton_self _
    obtain ⟨b, arg, -, ht⟩ := mem_level_iff.mp hmem
    cases congrArg Token.arg ht
  · intro t ht
    obtain ⟨b, arg, harg, rfl⟩ := mem_level_iff.mp ht
    have hname : '|' ∉ b.name.toList ∧ ':' ∉ b.name.toList := by cases b <;> decide
    refine ⟨hname.1, hname.2, ?_⟩
    rintro _ ⟨⟩
    exact bar_not_mem_argument harg

theorem level_eq_nil (h : r.text = "") : r.level = [] := by
  rw [← r.tokens_text, h]
  rfl

namespace Fits

variable (h : r.Fits)
include h

theorem integer?_text {l : Literal} (hl : l ∈ r.literals) : integer? l.text = .ok l.value :=
  Literal.integer?_text_eq_ok_iff.mpr ⟨rfl, (h l hl).1, (h l hl).2.le⟩

theorem takes (hb : r.argument? b = some arg) : (Station.scalar .integer).Takes b arg := by
  cases b with
  | least =>
    obtain ⟨l, hl, rfl⟩ := Option.map_eq_some_iff.mp hb
    exact ⟨_, h.integer?_text (by simp [literals, hl])⟩
  | greatest =>
    obtain ⟨l, hl, rfl⟩ := Option.map_eq_some_iff.mp hb
    exact ⟨_, h.integer?_text (by simp [literals, hl])⟩
  | member =>
    intro item hitem
    rw [pieces_argument hb] at hitem
    obtain ⟨l, hl, rfl⟩ := List.mem_map.mp hitem
    exact ⟨_, h.integer?_text (by simp [literals, hl])⟩
  | required | pattern | dive => cases hb

/-- The annotation makes one level of rules. -/
theorem levelForm (lex : Lexicon) : (Station.scalar .integer).LevelForm lex r.level := by
  constructor
  · intro t ht
    obtain ⟨b, arg, harg, rfl⟩ := mem_level_iff.mp ht
    exact .argument b arg (argument_ne_empty harg) (h.takes harg)
  · intro b
    have hcount : r.level.countP (·.is b) ≤ [Builtin.least, .greatest, .member].count b := by
      rw [level, List.countP_filterMap]
      refine List.countP_mono_left fun b' _ hb' => ?_
      cases harg : r.argument? b' with
      | none =>
        rw [harg] at hb'
        cases hb'
      | some arg =>
        rw [harg] at hb'
        exact beq_iff_eq.mpr (Builtin.name_injective (Token.is_iff.mp hb'))
    have honce : [Builtin.least, .greatest, .member].count b ≤ 1 := by cases b <;> decide
    omega

theorem ruleArgument?_eq {γ : Type} (read : String → Option γ) (b : Builtin) :
    ruleArgument? read b r.level = (r.argument? b).bind read := by
  ext a
  rw [ruleArgument?_eq_some_iff (h.levelForm ⟨.empty, {}⟩), Option.bind_eq_some_iff]
  constructor
  · rintro ⟨arg, harg, -, hread⟩
    exact ⟨arg, mk_mem_level_iff.mp harg, hread⟩
  · rintro ⟨arg, harg, hread⟩
    exact ⟨arg, mk_mem_level_iff.mpr harg, argument_ne_empty harg, hread⟩

theorem bound?_eq (o : Option Literal) (ho : ∀ l ∈ o, l ∈ r.literals) :
    (o.map Literal.text).bind Dialect.whole.bound? = o.map Literal.value := by
  cases o with
  | none => rfl
  | some l =>
    have hread := h.integer?_text (ho l rfl)
    rw [Option.map_some, Option.bind_some, Dialect.bound?_whole, hread]
    rfl

theorem members?_eq : (r.argument? .member).bind Dialect.whole.members? =
    if r.members = [] then none else some (r.members.map Literal.value) := by
  cases hmembers : r.members with
  | nil =>
    rw [argument?, hmembers]
    rfl
  | cons l rest =>
    have harg := argument?_member hmembers
    rw [← hmembers] at harg
    have hread : ∀ l ∈ r.members, Dialect.integer (String.ofList l.chars) = .ok l.value := by
      intro l hl
      rw [Dialect.integer, ← Literal.text, h.integer?_text (by simp [literals, hl])]
      rfl
    rw [← hmembers, harg, Option.bind_some, if_neg (hmembers ▸ List.cons_ne_nil l rest)]
    show (Segment.listed Dialect.integer _).toOption = _
    rw [Segment.listed, pieces_argument harg, List.mapM_map]
    exact congrArg Except.toOption (mapM_eq_ok hread)

/-- The level says what the numbers are, however they are written. -/
theorem segment_eq (lex : Lexicon) : Segment.ofTokens .whole lex r.level = {
    least := r.least.map Literal.value
    greatest := r.greatest.map Literal.value
    members := if r.members = [] then none else some (r.members.map Literal.value) } := by
  have hrequired : r.level.any (·.is .required) = false := by
    rw [List.any_eq_false]
    intro t ht hb
    obtain ⟨b, arg, harg, rfl⟩ := mem_level_iff.mp ht
    obtain rfl : b = .required := Builtin.name_injective (Token.is_iff.mp hb)
    cases harg
  have hcustom : r.level.filter (fun t => (Builtin.ofName? t.name).isNone) = [] := by
    rw [List.filter_eq_nil_iff]
    intro t ht
    obtain ⟨b, arg, -, rfl⟩ := mem_level_iff.mp ht
    rw [b.ofName?_name]
    nofun
  have hpattern : ruleArgument? Dialect.whole.pattern? .pattern r.level = none :=
    ruleArgument?_of_unread (fun _ => rfl) .pattern
  have hleast := h.bound?_eq r.least (by simp +contextual [literals])
  have hgreatest := h.bound?_eq r.greatest (by simp +contextual [literals])
  simp only [Segment.ofTokens, hrequired, hcustom, hpattern, h.ruleArgument?_eq, h.members?_eq]
  rw [argument?, argument?, hleast, hgreatest]
  rfl

/-- A number that is capped at the greatest one compares with smaller numbers as before. -/
theorem failures_eq (lex : Lexicon) (label : String) (n : Int) :
    (Segment.ofTokens .whole lex r.level).failures (.whole (min n greatestInteger)) label =
      r.reports label n := by
  have hgreatest : ∀ l ∈ r.greatest, (Gauge.whole (min n greatestInteger)).above l.value =
      decide (l.value < n) := by
    intro l hl
    obtain ⟨-, hl⟩ := h l (by simp [literals, Option.mem_def.mp hl])
    exact decide_eq_decide.mpr (by omega)
  have hleast : ∀ l ∈ r.least, (Gauge.whole (min n greatestInteger)).below l.value =
      decide (n < l.value) := by
    intro l hl
    obtain ⟨-, hl⟩ := h l (by simp [literals, Option.mem_def.mp hl])
    exact decide_eq_decide.mpr (by omega)
  have hmembers : (!(r.members.map Literal.value).any
      (Gauge.whole (min n greatestInteger)).equals) = true ↔ ∀ l ∈ r.members, l.value ≠ n := by
    rw [Bool.not_eq_true', List.any_map, List.any_eq_false]
    -- A member is below the greatest number, so it is no number that was capped.
    refine forall₂_congr fun l hl => not_congr ?_
    obtain ⟨-, hl⟩ := h l (by simp [literals, hl])
    rw [Function.comp_apply, Gauge.whole, beq_iff_eq]
    omega
  rw [h.segment_eq, Segment.failures, reports, toList_map_filter_map hgreatest,
    toList_map_filter_map hleast, Option.filter_none, Option.map_none, Option.toList_none,
    List.append_nil]
  congr 1
  by_cases hnil : r.members = []
  · simp [hnil]
  rw [if_neg hnil, Option.filter_some]
  by_cases hall : ∀ l ∈ r.members, l.value ≠ n
  · rw [if_pos (hmembers.mpr hall), if_pos ⟨hnil, hall⟩, Option.map_some, List.map_map]
    rfl
  · rw [if_neg (mt hmembers.mp hall), if_neg fun h => hall h.2]
    rfl

theorem accepted (lex : Lexicon) (format : IntegerFormat) (layers : List Layer) :
    ∃ c, Constraint.ofAnnotation lex ((FieldType.integer format).wrap layers).shape r.text =
        .ok c ∧ c = .ofText lex (.scalar .integer) r.text := by
  have hflat : Flat (tokens r.text) := by
    rw [r.tokens_text]
    exact (h.levelForm lex).flat
  refine ⟨_, ?_, rfl⟩
  rw [Constraint.ofAnnotation_wrap (.inl hflat)]
  refine Constraint.ofAnnotation_eq_ok_iff.mpr ⟨.inr (WellFormed.scalar_iff.mpr ?_), rfl⟩
  rw [r.tokens_text]
  exact h.levelForm lex

/-- A present number is compared, and nothing else is asked of it. -/
theorem checkScalar_view (lex : Lexicon) (scope : Scope) (label : String) (n : Int) :
    scope.checkScalar label (.integer (.ofTokens .whole lex r.level)) (Datum.integer n).view =
      scope.reportAll (r.reports label n) := by
  have hcustom : (Segment.ofTokens .whole lex r.level).custom = [] := by rw [h.segment_eq]
  rw [Datum.view, Scope.checkScalar, Scope.checkSegment, h.failures_eq, hcustom]
  exact bind_pure_unit

/-- A number in layers of options and boxes is compared unless it is a plain zero. -/
theorem check_wrap (lex : Lexicon) (scope : Scope) (label : String) (layers : List Layer)
    (n : Int) :
    scope.check (.ofText lex (.scalar .integer) r.text) false label
        ((Datum.integer n).wrap layers).view =
      if .option ∈ layers ∨ n ≠ 0 then scope.reportAll (r.reports label n) else pure () := by
  by_cases hempty : r.text = ""
  · -- Without any rules nothing is checked, and there is nothing to report.
    have hreports : r.reports label n = [] := by
      rw [← h.failures_eq lex, level_eq_nil hempty]
      rfl
    rw [Constraint.ofText, if_pos hempty, scope.check_unchecked, hreports]
    split <;> rfl
  have htarget := h.checkScalar_view lex scope label n
  have hrequired : (Segment.ofTokens .whole lex r.level).required = false := by
    rw [h.segment_eq]
  rw [Constraint.ofText, if_neg hempty, tokens_text, Constraint.ofTokens,
    ScalarConstraint.ofTokens, Datum.view_wrap, scope.check_scalar_eq_ifPresent,
    Value.present?_iterate_of_kind (s := .integer) rfl]
  by_cases hoption : .option ∈ layers
  · rw [if_neg (List.count_pos_iff.mpr hoption).ne', if_pos (.inl hoption)]
    exact htarget
  rw [if_pos (List.count_eq_zero.mpr hoption), Value.present?_of_kind (s := .integer) rfl]
  by_cases hzero : n = 0
  · rw [isZero_view.mpr hzero, if_neg (not_or.mpr ⟨hoption, not_not.mpr hzero⟩)]
    simp only [Bool.not_false, Bool.and_self, if_true, Scope.checkIfPresent,
      ScalarConstraint.required, hrequired, Scope.reportAbsent, Bool.false_eq_true, if_false]
  · rw [Bool.eq_false_iff.mpr (mt isZero_view.mp hzero), if_neg (by decide), if_pos (.inr hzero)]
    exact htarget

end Fits

end IntegerRules

/-- Whatever levels there are for a scalar, each token is a dive or stands in one of them. -/
theorem WellFormed.admits_of_core {lex : Lexicon} {shape : Shape} {ts : List Token} {s : Scalar}
    (hcore : shape.core = .scalar s) (h : WellFormed lex shape ts) {t : Token} (ht : t ∈ ts) :
    t = .dive ∨ Station.pointer.Admits lex t ∨ (Station.scalar s).Admits lex t := by
  induction h with
  | scalar s' ts hlevel =>
    cases hcore
    exact .inr (.inr (hlevel.admits t ht))
  | optional inner ts hplain hform ih => exact ih hcore ht
  | pointer inner s' hcore' head tail hhead htail ih =>
    rcases List.mem_append.mp ht with ht | ht
    · exact .inr (.inl (hhead.admits t ht))
    rcases List.mem_cons.mp ht with ht | ht
    · exact .inl ht
    · exact ih (hcore'.symm.trans hcore) ht
  | _ => cases hcore

/-- Whether a number is written in the argument of a rule, as a bound or as a member of a
list. -/
def Builtin.Writes (l : Literal) (arg : String) : Builtin → Prop
  | .least | .greatest => arg = l.text
  | .member => l.text ∈ Token.items arg
  | .required | .pattern | .dive => False

/-- A number is in range where a level for whole numbers can hold it. -/
theorem Builtin.Writes.range {b : Builtin} {l : Literal} {arg : String} (h : b.Writes l arg)
    (htakes : (Station.scalar .integer).Takes b arg) :
    leastInteger ≤ l.value ∧ l.value ≤ greatestInteger := by
  obtain ⟨n, hn⟩ : ∃ n, integer? l.text = .ok n := by
    cases b with
    | least | greatest =>
      obtain rfl : arg = l.text := h
      exact htakes
    | member =>
      obtain ⟨item, hitem, hl⟩ := List.mem_map.mp h
      rw [← hl]
      exact htakes item hitem
    | required | pattern | dive => cases h
  obtain ⟨rfl, hrange⟩ := Literal.integer?_text_eq_ok_iff.mp hn
  exact hrange

theorem Station.Admits.takes {station : Station} {lex : Lexicon} {b : Builtin} {arg : String}
    (hb : b ≠ .required) (h : station.Admits lex ⟨b.name, some arg⟩) : station.Takes b arg := by
  obtain ⟨arg', harg, htakes⟩ := h.argument_takes (Token.is_iff.mpr rfl) hb
  obtain ⟨heq, -⟩ := Option.filter_eq_some_iff.mp harg
  cases heq
  exact htakes

/-- No annotation for whole numbers is accepted that has a number out of range in it. -/
theorem WellFormed.range_of_writes {lex : Lexicon} {shape : Shape} {ts : List Token}
    (hcore : shape.core = .scalar .integer) (hform : WellFormed lex shape ts) {b : Builtin}
    {arg : String} (ht : ⟨b.name, some arg⟩ ∈ ts) {l : Literal} (h : b.Writes l arg) :
    leastInteger ≤ l.value ∧ l.value ≤ greatestInteger := by
  have hb : b ≠ .required := by
    rintro rfl
    cases h
  rcases hform.admits_of_core hcore ht with hdive | hpointer | hscalar
  · cases congrArg Token.arg hdive
  · have htakes := hpointer.takes hb
    cases b <;> cases htakes
  · exact h.range (hscalar.takes hb)

/-- Whole numbers are judged by their exact value, at any size. Bounds and members below the
greatest number are accepted in every spelling, alone or together, for every format and in any
layers. A value in an option and a plain value other than zero are reported if they are above
the upper bound, then if they are below the lower one, then if they are not in the list; a
plain zero is absent. A number that is out of range is not accepted in any rule. -/
theorem Inspector.integers_judged_exactly (i : Inspector) (format : IntegerFormat)
    (layers : List Layer) :
    let type := (FieldType.integer format).wrap layers
    (∀ text n, integer? text = .ok n ↔ ∃ l : Literal,
      l.text = text ∧ l.value = n ∧ leastInteger ≤ n ∧ n ≤ greatestInteger) ∧
    (∀ r : IntegerRules, r.Fits →
      (∀ (tag : TypeTag) (before : List FieldDecl) (name : String) (after : List FieldDecl),
        (∃ i', i.register ⟨tag, before ++ .checked name type r.text :: after⟩ = .ok i') ↔
          ∃ i', i.register ⟨tag, before ++ after⟩ = .ok i') ∧
      ∃ c, Constraint.ofAnnotation i.lexicon type.shape r.text = .ok c ∧
        ∀ (scope : Scope) (label : String) (n : Int),
          scope.check c false label ((Datum.integer n).wrap layers).view =
            if .option ∈ layers ∨ n ≠ 0 then scope.reportAll (r.reports label n)
            else pure ()) ∧
    ∀ l : Literal, l.value < leastInteger ∨ greatestInteger < l.value →
      ∀ (b : Builtin) (arg : String), b.Writes l arg →
        ∀ (t : RecordType) (name text : String), .checked name type text ∈ t.fields →
          ⟨b.name, some arg⟩ ∈ tokens text → ∀ i', i.register t ≠ .ok i' := by
  intro type
  have hcore : type.shape.core = .scalar .integer := by
    rw [FieldType.shape_wrap, Shape.core_optional_iterate]
    rfl
  refine ⟨fun text n => integer?_eq_ok_iff, fun r hr => ?_, ?_⟩
  · obtain ⟨c, hc, rfl⟩ := hr.accepted i.lexicon format layers
    refine ⟨fun tag before name after => ?_, _, hc, fun scope label n => ?_⟩
    · have haccepted : (FieldDecl.checked name type r.text).Accepted i.lexicon :=
        (Constraint.ofAnnotation_eq_ok_iff.mp hc).1
      simp only [register_eq_ok_iff, List.forall_mem_append, List.forall_mem_cons, haccepted,
        true_and, exists_and_left, exists_eq, and_true]
    · exact hr.check_wrap i.lexicon scope label layers n
  · intro l hl b arg hwrites t name text hfield htoken i' hi'
    obtain ⟨-, haccepted, -⟩ := register_eq_ok_iff.mp hi'
    rcases haccepted _ hfield with rfl | hform
    · cases htoken
    · have hrange := hform.range_of_writes hcore htoken hwrites
      omega

/-- The greatest unsigned number of 64 bits against the greatest bound and a list, and a
number that is too large by one. -/
theorem Inspector.integers_judged_exactly_unsigned :
    let type : FieldType := .integer (.unsigned 64)
    let r : IntegerRules := {
      least := some ⟨.plus, "007".toList, by decide +kernel, by decide +kernel⟩
      greatest := some
        ⟨.none, "9223372036854775806".toList, by decide +kernel, by decide +kernel⟩
      members := [⟨.minus, "0".toList, by decide +kernel, by decide +kernel⟩] }
    let beyond : Literal :=
      ⟨.none, "9223372036854775808".toList, by decide +kernel, by decide +kernel⟩
    r.Fits ∧ r.text = "min:+007|max:9223372036854775806|in:-0" ∧
    (∃ c, Constraint.ofAnnotation (Inspector.lexicon {}) type.shape r.text = .ok c ∧
      (⟨.empty, .all, 64, ⟨0⟩⟩ : Scope).check c false "id"
          (Datum.integer 18446744073709551615).view {} = .ok () ⟨0, [
        ⟨"id", "id can not be greater than 9223372036854775806", "max"⟩,
        ⟨"id", "id must be in [0]", "in"⟩]⟩) ∧
    greatestInteger < beyond.value ∧ Builtin.Writes beyond "1,9223372036854775808" .member ∧
    ∀ i', register {} ⟨⟨1, "Row"⟩, [.checked "id" type "in:1,9223372036854775808"]⟩ ≠ .ok i' := by
  intro type r beyond
  obtain ⟨-, hjudged, hrefused⟩ := integers_judged_exactly {} (.unsigned 64) []
  have hfits : r.Fits := by
    unfold IntegerRules.Fits
    decide +kernel
  obtain ⟨-, c, hc, hcheck⟩ := hjudged r hfits
  have hbeyond : greatestInteger < beyond.value := by decide +kernel
  have hwrites : Builtin.Writes beyond "1,9223372036854775808" .member := by
    show beyond.text ∈ Token.items "1,9223372036854775808"
    decide +kernel
  refine ⟨hfits, by decide +kernel, ⟨c, hc, ?_⟩, hbeyond, hwrites, fun i' => ?_⟩
  · have hview := hcheck ⟨.empty, .all, 64, ⟨0⟩⟩ "id" 18446744073709551615
    rw [Datum.wrap] at hview
    rw [hview]
    cbv
  · exact hrefused beyond (.inr hbeyond) .member _ hwrites _ "id" _ List.mem_cons_self
      (by decide +kernel) i'

end RecordValidation
