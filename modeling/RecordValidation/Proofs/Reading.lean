import RecordValidation.Proofs.Level

/-!
The compiled form of a level. A level of the right form is compiled to the segment
that holds, for each rule, what the only token of that rule says; a level of
another form is refused.
-/

namespace RecordValidation

namespace Segment

variable {β α : Type}

/-- The segment of a level, each rule looked up on its own. -/
def ofTokens (d : Dialect β α) (lex : Lexicon) (tokens : List Token) : Segment β α where
  required := tokens.any (·.is .required)
  least := ruleArgument? d.bound? .least tokens
  greatest := ruleArgument? d.bound? .greatest tokens
  pattern := ruleArgument? d.pattern? .pattern tokens
  members := ruleArgument? d.members? .member tokens
  custom := (tokens.filter fun t => (Builtin.ofName? t.name).isNone).filterMap fun t =>
    lex.rules.bind? t.name

theorem argument_eq_ok_iff {t : Token} {arg : String} :
    argument t = .ok arg ↔ t.argument? = some arg := by
  unfold argument Token.argument?
  cases t.arg with
  | none => exact ⟨nofun, nofun⟩
  | some a =>
    dsimp only [Option.filter_some]
    cases a.isEmpty with
    | true => exact ⟨nofun, nofun⟩
    | false => exact ⟨fun h => congrArg some (Except.ok.inj h), fun h => by cases h; rfl⟩

theorem once_eq_ok_iff {γ : Type} {place place' : Option γ} {value : γ} :
    once place value = .ok place' ↔ place = none ∧ place' = some value := by
  cases place with
  | none => exact ⟨fun h => ⟨rfl, (Except.ok.inj h).symm⟩, fun h => by rw [h.2]; rfl⟩
  | some a => exact ⟨nofun, nofun⟩

theorem readArgument_eq_ok_iff {γ : Type} {d : Dialect β α}
    {read? : Option (String → Except Malformed γ)} {t : Token} {value : γ} :
    readArgument d read? t = .ok value ↔
      t.argument?.bind (fun arg => read?.bind fun read => (read arg).toOption) = some value := by
  cases read? with
  | none => cases t.argument? <;> exact ⟨nofun, nofun⟩
  | some read =>
    unfold readArgument
    simp only [bind_eq_ok_iff, argument_eq_ok_iff, mapError_eq_ok_iff, Option.bind_some,
      Option.bind_eq_some_iff]

theorem readMembers_eq_ok_iff {d : Dialect β α} {t : Token} {value : List α} :
    readArgument d (d.member.map listed) t = .ok value ↔
      t.argument?.bind d.members? = some value := by
  rw [readArgument_eq_ok_iff]
  unfold Dialect.members?
  cases d.member <;> rfl

theorem readPattern_eq_ok_iff {t : Token} {p : Pattern} :
    (do
      let arg ← argument t
      (Pattern.ofString? arg).mapError TokenFault.pattern) = .ok p ↔
      t.argument?.bind (fun arg => (Pattern.ofString? arg).toOption) = some p := by
  simp only [bind_eq_ok_iff, argument_eq_ok_iff, mapError_eq_ok_iff, Option.bind_eq_some_iff]

theorem resolve_eq_ok_iff {lex : Lexicon} {t : Token} {rules : List NamedRule} :
    resolve lex t = .ok rules ↔
      (if lex.rules.contains t.name then t.arg = none else lex.settings.isStrict = false) ∧
        rules = (lex.rules.bind? t.name).toList := by
  unfold resolve RuleBook.bind? RuleBook.contains Roster.contains RuleBook.find?
  cases lex.rules.rules.find? t.name with
  | none =>
    cases lex.settings.isStrict with
    | true => exact ⟨nofun, nofun⟩
    | false => exact ⟨fun h => ⟨rfl, (Except.ok.inj h).symm⟩, fun h => by rw [h.2]; rfl⟩
  | some rule =>
    cases t.arg with
    | none => exact ⟨fun h => ⟨rfl, (Except.ok.inj h).symm⟩, fun h => by rw [h.2]; rfl⟩
    | some arg => exact ⟨nofun, nofun⟩

/-- A place that is read and set has to be free. -/
theorem set_eq_ok_iff {γ δ : Type} {x : Except TokenFault γ} {place : Option γ}
    {set : Option γ → δ} {s' : δ} :
    (do
      let value ← x
      let place ← once place value
      return set place) = .ok s' ↔
      ∃ value, x = .ok value ∧ place = none ∧ s' = set (some value) := by
  simp only [bind_eq_ok_iff, once_eq_ok_iff]
  constructor
  · rintro ⟨value, hx, _, ⟨hplace, rfl⟩, h⟩
    exact ⟨value, hx, hplace, (Except.ok.inj h).symm⟩
  · rintro ⟨value, hx, hplace, rfl⟩
    exact ⟨value, hx, _, ⟨hplace, rfl⟩, rfl⟩

section

variable {d : Dialect β α} {lex : Lexicon} {s s' : Segment β α} {t : Token}

theorem add_required (hb : t.is .required = true) :
    s.add d lex t = .ok s' ↔
      t.arg = none ∧ s.required = false ∧ s' = { s with required := true } := by
  simp only [add, Token.ofName?_of_is hb]
  cases t.arg with
  | some arg => exact ⟨nofun, nofun⟩
  | none =>
    cases s.required with
    | true => exact ⟨nofun, nofun⟩
    | false => exact ⟨fun h => ⟨rfl, rfl, (Except.ok.inj h).symm⟩, fun h => by rw [h.2.2]; rfl⟩

theorem add_least (hb : t.is .least = true) :
    s.add d lex t = .ok s' ↔
      ∃ value, t.argument?.bind d.bound? = some value ∧ s.least = none ∧
        s' = { s with least := some value } := by
  simp only [add, Token.ofName?_of_is hb]
  rw [set_eq_ok_iff]
  simp only [readArgument_eq_ok_iff]
  rfl

theorem add_greatest (hb : t.is .greatest = true) :
    s.add d lex t = .ok s' ↔
      ∃ value, t.argument?.bind d.bound? = some value ∧ s.greatest = none ∧
        s' = { s with greatest := some value } := by
  simp only [add, Token.ofName?_of_is hb]
  rw [set_eq_ok_iff]
  simp only [readArgument_eq_ok_iff]
  rfl

theorem add_member (hb : t.is .member = true) :
    s.add d lex t = .ok s' ↔
      ∃ value, t.argument?.bind d.members? = some value ∧ s.members = none ∧
        s' = { s with members := some value } := by
  simp only [add, Token.ofName?_of_is hb]
  rw [set_eq_ok_iff]
  simp only [readMembers_eq_ok_iff]

theorem add_pattern (hb : t.is .pattern = true) :
    s.add d lex t = .ok s' ↔
      ∃ value, t.argument?.bind d.pattern? = some value ∧ s.pattern = none ∧
        s' = { s with pattern := some value } := by
  simp only [add, Token.ofName?_of_is hb]
  unfold Dialect.pattern?
  cases d.pattern with
  | false =>
    cases t.argument? <;> exact ⟨nofun, nofun⟩
  | true =>
    show (do
      let arg ← argument t
      let value ← (Pattern.ofString? arg).mapError TokenFault.pattern
      let pattern ← once s.pattern value
      return { s with pattern }) = Except.ok s' ↔ _
    rw [← bind_assoc, set_eq_ok_iff]
    simp only [readPattern_eq_ok_iff]
    rfl

theorem add_dive (hb : t.is .dive = true) : s.add d lex t ≠ .ok s' := by
  simp only [add, Token.ofName?_of_is hb]
  exact nofun

theorem add_custom (hname : Builtin.ofName? t.name = none) :
    s.add d lex t = .ok s' ↔
      (if lex.rules.contains t.name then t.arg = none else lex.settings.isStrict = false) ∧
        s' = { s with custom := s.custom ++ (lex.rules.bind? t.name).toList } := by
  simp only [add, hname]
  rw [bind_eq_ok_iff]
  simp only [resolve_eq_ok_iff]
  constructor
  · rintro ⟨_, ⟨h, rfl⟩, hs⟩
    exact ⟨h, (Except.ok.inj hs).symm⟩
  · rintro ⟨h, rfl⟩
    exact ⟨_, ⟨h, rfl⟩, rfl⟩

end

/-- In a level of the right form, a rule that is read as nothing is not there. -/
theorem ruleArgument?_eq_none_iff {γ : Type} {read : String → Option γ} {b : Builtin}
    {station : Station} {lex : Lexicon} {tokens : List Token} (hreq : b ≠ .required)
    (hread : ∀ arg, station.Takes b arg ↔ (read arg).isSome)
    (hform : station.LevelForm lex tokens) :
    ruleArgument? read b tokens = none ↔ tokens.any (·.is b) = false := by
  constructor
  · intro hnone
    cases hfind : tokens.find? (·.is b) with
    | none => exact List.any_eq_false.mpr (List.find?_eq_none.mp hfind)
    | some t =>
      have hb := List.find?_some hfind
      have hadmits := hform.admits t (List.mem_of_find?_eq_some hfind)
      obtain ⟨arg, harg, htakes⟩ := hadmits.argument_takes hb hreq
      have hsome := (hread arg).mp htakes
      rw [ruleArgument?, hfind, Option.bind_some, harg, Option.bind_some] at hnone
      rw [hnone] at hsome
      cases hsome
  · intro hany
    have hfind : tokens.find? (·.is b) = none := by
      rw [List.find?_eq_none]
      exact List.any_eq_false.mp hany
    rw [ruleArgument?, hfind]
    rfl

section

variable {d : Dialect β α} {lex : Lexicon} {tokens : List Token} {t : Token}

theorem fresh_iff {b : Builtin} (hb : t.is b = true) :
    (∀ b', t.is b' = true → tokens.any (·.is b') = false) ↔ tokens.any (·.is b) = false := by
  constructor
  · exact fun h => h b hb
  · intro h b' hb'
    have hname := Token.ofName?_of_is hb
    rw [Token.ofName?_of_is hb'] at hname
    rw [Option.some.inj hname]
    exact h

/-- To read an argument into a free place is to admit a token that is not there yet,
and gives what the longer level is read as. -/
theorem place_eq_some_iff {γ δ : Type} {read : String → Option γ} {b : Builtin}
    {station : Station} (hb : t.is b = true) (hreq : b ≠ .required)
    (hread : ∀ arg, station.Takes b arg ↔ (read arg).isSome)
    (hform : station.LevelForm lex tokens) (set : Option γ → δ) (s' : δ) :
    (∃ value, t.argument?.bind read = some value ∧ ruleArgument? read b tokens = none ∧
      s' = set (some value)) ↔
      (station.Admits lex t ∧ ∀ b', t.is b' = true → tokens.any (·.is b') = false) ∧
        s' = set (ruleArgument? read b (tokens ++ [t])) := by
  rw [ruleArgument?_eq_none_iff hreq hread hform, Station.admits_iff_of_is hb hreq, fresh_iff hb]
  constructor
  · rintro ⟨value, hvalue, hany, rfl⟩
    obtain ⟨arg, harg, hsome⟩ := Option.bind_eq_some_iff.mp hvalue
    refine ⟨⟨⟨arg, harg, (hread arg).mpr (Option.isSome_of_eq_some hsome)⟩, hany⟩, ?_⟩
    rw [ruleArgument?_append_of_is read b tokens t hb hany, hvalue]
  · rintro ⟨⟨⟨arg, harg, htakes⟩, hany⟩, rfl⟩
    obtain ⟨value, hvalue⟩ := Option.isSome_iff_exists.mp ((hread arg).mp htakes)
    refine ⟨value, ?_, hany, ?_⟩
    · rw [harg, Option.bind_some, hvalue]
    · rw [ruleArgument?_append_of_is read b tokens t hb hany, harg, Option.bind_some, hvalue]

theorem ofTokens_append_custom (hname : Builtin.ofName? t.name = none) :
    ofTokens d lex (tokens ++ [t]) =
      { ofTokens d lex tokens with
        custom := (ofTokens d lex tokens).custom ++ (lex.rules.bind? t.name).toList } := by
  have hb := Token.is_eq_false_of_ofName?_eq_none hname
  have hcustom : [t].filterMap (fun t => lex.rules.bind? t.name) =
      (lex.rules.bind? t.name).toList := by
    cases h : lex.rules.bind? t.name <;> simp [h]
  simp only [ofTokens, List.any_append, List.any_cons, List.any_nil, hb, Bool.or_false,
    ruleArgument?_append_of_not_is _ _ _ t (hb _), List.filter_append, List.filterMap_append,
    List.filter_cons, hname, Option.isNone_none, if_true, List.filter_nil, hcustom]

/-- To add a token to the segment of a level succeeds if the token can be added to
the level, and gives the segment of the longer level. -/
theorem add_ofTokens_eq_ok_iff (hd : d.Speaks) (hform : d.station.LevelForm lex tokens)
    {s' : Segment β α} :
    (ofTokens d lex tokens).add d lex t = .ok s' ↔
      (d.station.Admits lex t ∧ ∀ b, t.is b = true → tokens.any (·.is b) = false) ∧
        s' = ofTokens d lex (tokens ++ [t]) := by
  cases hname : Builtin.ofName? t.name with
  | none =>
    rw [add_custom hname, ofTokens_append_custom hname, Station.admits_iff_of_custom hname]
    have hb := Token.is_eq_false_of_ofName?_eq_none hname
    simp [hb]
  | some b =>
    have hb := Token.is_of_ofName? hname
    have hother : ∀ b', b ≠ b' → t.is b' = false := fun b' =>
      Token.is_eq_false_of_ofName? hname
    cases b with
    | required =>
      rw [add_required hb, Station.admits_iff_of_required hb, fresh_iff hb, and_assoc]
      refine and_congr_right fun _ => and_congr_right fun hany => ?_
      simp [ofTokens, hname, hother, hb, ruleArgument?_append_of_not_is]
    | least =>
      rw [add_least hb]
      refine (place_eq_some_iff hb nofun hd.least hform
        (fun least => { ofTokens d lex tokens with least }) s').trans
        (and_congr_right fun _ => ?_)
      simp [ofTokens, hname, hother, ruleArgument?_append_of_not_is]
    | greatest =>
      rw [add_greatest hb]
      refine (place_eq_some_iff hb nofun hd.greatest hform
        (fun greatest => { ofTokens d lex tokens with greatest }) s').trans
        (and_congr_right fun _ => ?_)
      simp [ofTokens, hname, hother, ruleArgument?_append_of_not_is]
    | member =>
      rw [add_member hb]
      refine (place_eq_some_iff hb nofun hd.member hform
        (fun members => { ofTokens d lex tokens with members }) s').trans
        (and_congr_right fun _ => ?_)
      simp [ofTokens, hname, hother, ruleArgument?_append_of_not_is]
    | pattern =>
      rw [add_pattern hb]
      refine (place_eq_some_iff hb nofun hd.pattern hform
        (fun pattern => { ofTokens d lex tokens with pattern }) s').trans
        (and_congr_right fun _ => ?_)
      simp [ofTokens, hname, hother, ruleArgument?_append_of_not_is]
    | dive =>
      constructor
      · exact fun h => absurd h (add_dive hb)
      · rintro ⟨⟨hadmits, -⟩, -⟩
        obtain ⟨arg, -, htakes⟩ := hadmits.argument_takes hb nofun
        exact absurd htakes Station.not_takes_dive

end

variable {d : Dialect β α} {lex : Lexicon}

-- The segment so far is what the tokens that are done are read as, so one added token
-- is all that a step of the induction is about.
theorem compileFrom_eq_ok_iff (hd : d.Speaks) {done : List Token}
    (hdone : d.station.LevelForm lex done) (rest : List Token) {s : Segment β α} :
    compileFrom d lex (ofTokens d lex done) rest = .ok s ↔
      d.station.LevelForm lex (done ++ rest) ∧ s = ofTokens d lex (done ++ rest) := by
  induction rest generalizing done with
  | nil =>
    rw [List.append_nil]
    exact ⟨fun h => ⟨hdone, (Except.ok.inj h).symm⟩, fun h => by rw [h.2]; rfl⟩
  | cons t rest ih =>
    rw [compileFrom, List.append_cons]
    cases hadd : (ofTokens d lex done).add d lex t with
    | ok next =>
      obtain ⟨⟨hadmits, hfresh⟩, rfl⟩ := (add_ofTokens_eq_ok_iff hd hdone).mp hadd
      exact ih (Station.levelForm_append_singleton.mpr ⟨hdone, hadmits, hfresh⟩)
    | error cause =>
      constructor
      · nofun
      · rintro ⟨hform, -⟩
        obtain ⟨-, hstep⟩ := Station.levelForm_append_singleton.mp hform.of_append
        have hok := (add_ofTokens_eq_ok_iff hd hdone).mpr ⟨hstep, rfl⟩
        rw [hadd] at hok
        cases hok

/-- A level is compiled if it has the right form, and then to what it is read as. -/
theorem compile_eq_ok_iff (hd : d.Speaks) {tokens : List Token} {s : Segment β α} :
    compile d lex tokens = .ok s ↔
      d.station.LevelForm lex tokens ∧ s = ofTokens d lex tokens :=
  compileFrom_eq_ok_iff hd Station.levelForm_nil tokens

end Segment

end RecordValidation
