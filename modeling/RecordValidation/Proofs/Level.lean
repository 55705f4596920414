import Mathlib
import RecordValidation.Session

/-!
Levels: the tokens of an annotation that stand between two dives. A level has a
form that says which tokens it may hold, and a reading that looks each built-in
rule up in it. Compiling a level succeeds on those of its form, and gives what the
reading gives.
-/

namespace RecordValidation

theorem bind_eq_ok_iff {ε α β : Type} {x : Except ε α} {f : α → Except ε β} {b : β} :
    x >>= f = .ok b ↔ ∃ a, x = .ok a ∧ f a = .ok b := by
  cases x with
  | error e => exact ⟨nofun, nofun⟩
  | ok a =>
    constructor
    · exact fun h => ⟨a, rfl, h⟩
    · rintro ⟨_, h, hf⟩
      cases h
      exact hf

theorem mapError_eq_ok_iff {ε ε' α : Type} {x : Except ε α} {f : ε → ε'} {a : α} :
    x.mapError f = .ok a ↔ x.toOption = some a := by
  cases x <;> simp [Except.mapError, Except.toOption]

theorem map_eq_ok_iff {ε α β : Type} {x : Except ε α} {f : α → β} {b : β} :
    x.map f = .ok b ↔ ∃ a, x = .ok a ∧ b = f a := by
  cases x with
  | error e => exact ⟨nofun, nofun⟩
  | ok a =>
    constructor
    · exact fun h => ⟨a, rfl, (Except.ok.inj h).symm⟩
    · rintro ⟨_, h, rfl⟩
      cases h
      rfl

theorem toOption_mapError {ε ε' α : Type} (x : Except ε α) (f : ε → ε') :
    (x.mapError f).toOption = x.toOption := by
  cases x <;> rfl

theorem isSome_toOption {ε α : Type} (x : Except ε α) :
    x.toOption.isSome ↔ ∃ a, x = .ok a := by
  cases x <;> simp [Except.toOption]

namespace Token

/-- Whether a token has the name of a built-in rule. -/
def is (t : Token) (b : Builtin) : Bool := t.name == b.name

theorem is_iff {t : Token} {b : Builtin} : t.is b = true ↔ t.name = b.name := beq_iff_eq

theorem is_of_ofName? {t : Token} {b : Builtin} (h : Builtin.ofName? t.name = some b) :
    t.is b = true :=
  is_iff.mpr (Builtin.name_of_ofName? h).symm

theorem ofName?_of_is {t : Token} {b : Builtin} (h : t.is b = true) :
    Builtin.ofName? t.name = some b := by
  rw [is_iff.mp h, Builtin.ofName?_name]

theorem is_eq_false_of_ofName? {t : Token} {b b' : Builtin}
    (h : Builtin.ofName? t.name = some b) (hne : b ≠ b') : t.is b' = false := by
  cases hb : t.is b' with
  | false => rfl
  | true =>
    have hb' := ofName?_of_is hb
    rw [h] at hb'
    exact absurd (Option.some.inj hb') hne

theorem is_eq_false_of_ofName?_eq_none {t : Token} (h : Builtin.ofName? t.name = none)
    (b : Builtin) : t.is b = false := by
  cases hb : t.is b with
  | false => rfl
  | true =>
    rw [ofName?_of_is hb] at h
    cases h

/-- The argument of a token, if it has one that is not empty. -/
def argument? (t : Token) : Option String := t.arg.filter (fun arg => !arg.isEmpty)

end Token

/-- What the arguments of built-in rules have to be, at stations that know these
rules. A rule that a station does not know takes no argument at all there. -/
def Station.Takes : Station → Builtin → String → Prop
  | .scalar .text, .least, arg | .scalar .text, .greatest, arg
  | .sequence, .least, arg | .sequence, .greatest, arg => ∃ n, Numeral.count? arg = .ok n
  | .scalar .integer, .least, arg | .scalar .integer, .greatest, arg
  | .scalar .time, .least, arg | .scalar .time, .greatest, arg => ∃ n, Numeral.integer? arg = .ok n
  | .scalar .float, .least, arg | .scalar .float, .greatest, arg =>
    ∃ x, Decimal.read? arg = some x ∧ x.isFinite = true
  | .scalar .text, .member, _ => True
  | .scalar .integer, .member, arg =>
    ∀ item ∈ pieces ',' arg.toList, ∃ n, Numeral.integer? (String.ofList item) = .ok n
  | .scalar .text, .pattern, arg => ∃ p, Pattern.ofString? arg = .ok p
  | _, _, _ => False

/-- The tokens that can stand at a station: `req` without an argument, a rule that
the station knows with an argument that it takes, a custom rule without an argument
and, where unknown rules are ignored, an unknown one. -/
inductive Station.Admits (lex : Lexicon) (station : Station) : Token → Prop
  | required : station.Admits lex ⟨Builtin.required.name, none⟩
  | argument (b : Builtin) (arg : String) (hne : arg ≠ "") (h : station.Takes b arg) :
      station.Admits lex ⟨b.name, some arg⟩
  | custom (name : String) (hname : Builtin.ofName? name = none)
      (h : lex.rules.contains name = true) : station.Admits lex ⟨name, none⟩
  | ignored (t : Token) (hname : Builtin.ofName? t.name = none)
      (h : lex.rules.contains t.name = false) (hlenient : lex.settings.isStrict = false) :
      station.Admits lex t

/-- The form of a level: tokens that the station admits, no built-in rule twice. -/
structure Station.LevelForm (station : Station) (lex : Lexicon) (tokens : List Token) :
    Prop where
  admits : ∀ t ∈ tokens, station.Admits lex t
  once : ∀ b : Builtin, tokens.countP (·.is b) ≤ 1

namespace Dialect

variable {β α : Type}

/-- The bound that an argument stands for. -/
def bound? (d : Dialect β α) (arg : String) : Option β :=
  d.bound.bind fun read => (read arg).toOption

def members? (d : Dialect β α) (arg : String) : Option (List α) :=
  d.member.bind fun read => (Segment.listed read arg).toOption

def pattern? (d : Dialect β α) (arg : String) : Option Pattern :=
  if d.pattern then (Pattern.ofString? arg).toOption else none

/-- A dialect that reads the arguments which its station takes. -/
structure Speaks (d : Dialect β α) : Prop where
  least : ∀ arg, d.station.Takes .least arg ↔ (d.bound? arg).isSome
  greatest : ∀ arg, d.station.Takes .greatest arg ↔ (d.bound? arg).isSome
  member : ∀ arg, d.station.Takes .member arg ↔ (d.members? arg).isSome
  pattern : ∀ arg, d.station.Takes .pattern arg ↔ (d.pattern? arg).isSome

end Dialect

namespace Dialect

theorem toOption_count (arg : String) :
    (count arg).toOption = (Numeral.count? arg).toOption :=
  toOption_mapError _ _

theorem toOption_integer (arg : String) :
    (integer arg).toOption = (Numeral.integer? arg).toOption :=
  toOption_mapError _ _

theorem toOption_finite (arg : String) :
    (finite arg).toOption = (Decimal.read? arg).filter (·.isFinite) := by
  unfold finite
  cases Decimal.read? arg with
  | none => rfl
  | some x =>
    dsimp only [Option.filter_some]
    split <;> rfl

theorem bound?_text (arg : String) : text.bound? arg = (Numeral.count? arg).toOption :=
  toOption_count arg

theorem bound?_whole (arg : String) : whole.bound? arg = (Numeral.integer? arg).toOption :=
  toOption_integer arg

theorem bound?_float (arg : String) :
    float.bound? arg = (Decimal.read? arg).filter (·.isFinite) :=
  toOption_finite arg

theorem bound?_time (arg : String) : time.bound? arg = (Numeral.integer? arg).toOption :=
  toOption_integer arg

theorem bound?_sequence (arg : String) :
    sequence.bound? arg = (Numeral.count? arg).toOption :=
  toOption_count arg

theorem isSome_count (arg : String) :
    (count arg).toOption.isSome ↔ ∃ n, Numeral.count? arg = .ok n := by
  rw [toOption_count, isSome_toOption]

theorem isSome_integer (arg : String) :
    (integer arg).toOption.isSome ↔ ∃ n, Numeral.integer? arg = .ok n := by
  rw [toOption_integer, isSome_toOption]

theorem isSome_finite (arg : String) :
    (finite arg).toOption.isSome ↔ ∃ x, Decimal.read? arg = some x ∧ x.isFinite = true := by
  rw [toOption_finite, Option.isSome_iff_exists]
  simp only [Option.filter_eq_some_iff]

theorem isSome_listed {α : Type} (read : String → Except Malformed α) (arg : String) :
    (Segment.listed read arg).toOption.isSome ↔
      ∀ item ∈ pieces ',' arg.toList, (read (String.ofList item)).toOption.isSome := by
  unfold Segment.listed
  generalize pieces ',' arg.toList = items
  induction items with
  | nil => simp [Except.toOption, pure, Except.pure]
  | cons item rest ih =>
    rw [List.mapM_cons, List.forall_mem_cons, ← ih]
    cases read (String.ofList item) with
    | error e => simp [Except.toOption, bind, Except.bind]
    | ok a =>
      cases rest.mapM fun item => read (String.ofList item) <;>
        simp [Except.toOption, bind, Except.bind, pure, Except.pure]

theorem text_speaks : Dialect.text.Speaks where
  least arg := (isSome_count arg).symm
  greatest arg := (isSome_count arg).symm
  member arg := by
    show True ↔ (Segment.listed .ok arg).toOption.isSome
    rw [isSome_listed]
    exact ⟨fun _ _ _ => rfl, fun _ => trivial⟩
  pattern arg := (isSome_toOption (Pattern.ofString? arg)).symm

theorem whole_speaks : Dialect.whole.Speaks where
  least arg := (isSome_integer arg).symm
  greatest arg := (isSome_integer arg).symm
  member arg := by
    show (∀ item ∈ pieces ',' arg.toList, ∃ n, _) ↔ (Segment.listed integer arg).toOption.isSome
    rw [isSome_listed]
    exact forall_congr' fun item => imp_congr_right fun _ => (isSome_integer _).symm
  pattern _ := ⟨nofun, nofun⟩

theorem float_speaks : Dialect.float.Speaks where
  least arg := (isSome_finite arg).symm
  greatest arg := (isSome_finite arg).symm
  member _ := ⟨nofun, nofun⟩
  pattern _ := ⟨nofun, nofun⟩

theorem time_speaks : Dialect.time.Speaks where
  least arg := (isSome_integer arg).symm
  greatest arg := (isSome_integer arg).symm
  member _ := ⟨nofun, nofun⟩
  pattern _ := ⟨nofun, nofun⟩

theorem sequence_speaks : Dialect.sequence.Speaks where
  least arg := (isSome_count arg).symm
  greatest arg := (isSome_count arg).symm
  member _ := ⟨nofun, nofun⟩
  pattern _ := ⟨nofun, nofun⟩

theorem pointer_speaks : Dialect.pointer.Speaks where
  least _ := ⟨nofun, nofun⟩
  greatest _ := ⟨nofun, nofun⟩
  member _ := ⟨nofun, nofun⟩
  pattern _ := ⟨nofun, nofun⟩

theorem record_speaks : Dialect.record.Speaks where
  least _ := ⟨nofun, nofun⟩
  greatest _ := ⟨nofun, nofun⟩
  member _ := ⟨nofun, nofun⟩
  pattern _ := ⟨nofun, nofun⟩

end Dialect

/-- What the first token with the name of a built-in rule is read as. -/
def ruleArgument? {γ : Type} (read : String → Option γ) (b : Builtin) (tokens : List Token) :
    Option γ :=
  ((tokens.find? (·.is b)).bind Token.argument?).bind read

section

variable {γ : Type} (read : String → Option γ) (b : Builtin) (tokens : List Token) (t : Token)

theorem ruleArgument?_append_of_not_is (h : t.is b = false) :
    ruleArgument? read b (tokens ++ [t]) = ruleArgument? read b tokens := by
  unfold ruleArgument?
  rw [List.find?_append]
  simp [h]

theorem ruleArgument?_append_of_is (h : t.is b = true) (hnone : tokens.any (·.is b) = false) :
    ruleArgument? read b (tokens ++ [t]) = t.argument?.bind read := by
  have hfind : tokens.find? (·.is b) = none := by
    rw [List.find?_eq_none]
    rw [List.any_eq_false] at hnone
    exact hnone
  unfold ruleArgument?
  rw [List.find?_append, hfind]
  simp [h]

end

theorem ruleArgument?_of_unread {γ : Type} {read : String → Option γ}
    (h : ∀ arg, read arg = none) (b : Builtin) {tokens : List Token} :
    ruleArgument? read b tokens = none := by
  rw [ruleArgument?, funext h]
  cases (tokens.find? (·.is b)).bind Token.argument? <;> rfl

namespace Station

variable {lex : Lexicon} {station : Station} {tokens : List Token} {t : Token}

theorem Admits.argument_takes {b : Builtin} (h : station.Admits lex t) (hb : t.is b = true)
    (hreq : b ≠ .required) : ∃ arg, t.argument? = some arg ∧ station.Takes b arg := by
  have hname := Token.ofName?_of_is hb
  cases h with
  | required => exact absurd (Option.some.inj hname).symm hreq
  | argument b' arg hne h =>
    rw [Builtin.ofName?_name] at hname
    cases hname
    refine ⟨arg, ?_, h⟩
    simp [Token.argument?, hne]
  | custom name hcustom h =>
    rw [hcustom] at hname
    cases hname
  | ignored t hcustom h hlenient =>
    rw [hcustom] at hname
    cases hname

theorem admits_iff_of_is {b : Builtin} (hb : t.is b = true) (hreq : b ≠ .required) :
    station.Admits lex t ↔ ∃ arg, t.argument? = some arg ∧ station.Takes b arg := by
  constructor
  · exact fun h => h.argument_takes hb hreq
  · rintro ⟨arg, harg, h⟩
    obtain ⟨name, arg'⟩ := t
    cases Token.is_iff.mp hb
    cases arg' with
    | none => cases harg
    | some arg' =>
      simp only [Token.argument?, Option.filter_eq_some_iff, Option.some.injEq] at harg
      obtain ⟨rfl, hne⟩ := harg
      exact .argument b arg' (by simpa using hne) h

theorem admits_iff_of_required (hb : t.is .required = true) :
    station.Admits lex t ↔ t.arg = none := by
  have hname := Token.ofName?_of_is hb
  constructor
  · intro h
    cases h with
    | required => rfl
    | argument b arg hne h =>
      rw [Builtin.ofName?_name] at hname
      cases hname
      cases station with
      | scalar s => cases s <;> cases h
      | _ => cases h
    | custom name hcustom h => rfl
    | ignored t hcustom h hlenient =>
      rw [hcustom] at hname
      cases hname
  · intro h
    obtain ⟨name, arg⟩ := t
    cases Token.is_iff.mp hb
    cases h
    exact .required

theorem admits_iff_of_custom (hname : Builtin.ofName? t.name = none) :
    station.Admits lex t ↔
      if lex.rules.contains t.name then t.arg = none else lex.settings.isStrict = false := by
  constructor
  · intro h
    cases h with
    | required => cases hname
    | argument b arg hne h =>
      rw [Builtin.ofName?_name] at hname
      cases hname
    | custom name hcustom h => rw [if_pos h]
    | ignored t hcustom h hlenient => rwa [if_neg (by simp [h])]
  · intro h
    cases hc : lex.rules.contains t.name with
    | true =>
      rw [if_pos hc] at h
      obtain ⟨name, arg⟩ := t
      cases h
      exact .custom name hname hc
    | false =>
      rw [if_neg (by simp [hc])] at h
      exact .ignored t hname hc h

theorem not_takes_dive {arg : String} : ¬station.Takes .dive arg := by
  cases station with
  | scalar s => cases s <;> exact id
  | _ => exact id

theorem LevelForm.of_append {rest : List Token} (h : station.LevelForm lex (tokens ++ rest)) :
    station.LevelForm lex tokens where
  admits t ht := h.admits t (List.mem_append_left rest ht)
  once b := by
    have hcount := h.once b
    rw [List.countP_append] at hcount
    omega

theorem levelForm_nil : station.LevelForm lex [] := ⟨nofun, fun _ => Nat.zero_le 1⟩

theorem any_is_eq_false_iff (b : Builtin) :
    tokens.any (·.is b) = false ↔ tokens.countP (·.is b) = 0 := by
  rw [List.any_eq_false, List.countP_eq_zero]

/-- A token can be added to a level if it is admitted and its rule is not there yet. -/
theorem levelForm_append_singleton :
    station.LevelForm lex (tokens ++ [t]) ↔
      station.LevelForm lex tokens ∧ station.Admits lex t ∧
        ∀ b, t.is b = true → tokens.any (·.is b) = false := by
  constructor
  · rintro ⟨hadmits, honce⟩
    have hcount : ∀ b, tokens.countP (·.is b) + (if t.is b then 1 else 0) ≤ 1 := by
      intro b
      have h := honce b
      rwa [List.countP_append, List.countP_singleton] at h
    refine ⟨LevelForm.of_append ⟨hadmits, honce⟩, hadmits t (by simp), ?_⟩
    intro b hb
    have h := hcount b
    rw [if_pos hb] at h
    rw [any_is_eq_false_iff]
    omega
  · rintro ⟨⟨hadmits, honce⟩, ht, hfree⟩
    constructor
    · intro t' ht'
      rcases List.mem_append.mp ht' with hmem | hmem
      · exact hadmits t' hmem
      · rw [List.mem_singleton.mp hmem]
        exact ht
    · intro b
      rw [List.countP_append, List.countP_singleton]
      by_cases hb : t.is b = true
      · have h := (any_is_eq_false_iff b).mp (hfree b hb)
        rw [if_pos hb]
        omega
      · rw [if_neg hb]
        exact honce b

end Station

end RecordValidation
