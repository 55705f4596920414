import RecordValidation.Proofs.Agreement
import RecordValidation.Proofs.Refusal

/-!
Independent setups: two of them can be made in either order. A setup looks up what it
needs to know and then, unless it is refused, makes one entry. It is independent of
another setup if that one enters under another key and nothing that it looks up.
-/

namespace RecordValidation

namespace Roster.KeyOrder

theorem string : KeyOrder String where
  asymm := String.lt_asymm
  trans := String.lt_trans
  connex := by
    intro a b hne
    by_cases hab : a < b
    · exact .inl hab
    · refine .inr (Decidable.not_not.mp fun hba => hne ?_)
      exact String.le_antisymm hba hab

theorem typeTag : KeyOrder TypeTag where
  asymm := by
    rintro a b (hab | ⟨hab, hname⟩) (hba | ⟨hba, hname'⟩)
    · exact Nat.lt_asymm hab hba
    · exact Nat.lt_irrefl _ (hba ▸ hab)
    · exact Nat.lt_irrefl _ (hab ▸ hba)
    · exact string.asymm hname hname'
  trans := by
    rintro a b c (hab | ⟨hab, hname⟩) (hbc | ⟨hbc, hname'⟩)
    · exact .inl (Nat.lt_trans hab hbc)
    · exact .inl (hbc ▸ hab)
    · exact .inl (hab ▸ hbc)
    · exact .inr ⟨hab.trans hbc, string.trans hname hname'⟩
  connex := by
    rintro ⟨serial, name⟩ ⟨serial', name'⟩ hne
    rcases Nat.lt_trichotomy serial serial' with h | rfl | h
    · exact .inl (.inl h)
    · have hname : name ≠ name' := fun h => hne (congrArg _ h)
      rcases string.connex hname with h | h
      · exact .inl (.inr ⟨rfl, h⟩)
      · exact .inr (.inr ⟨rfl, h⟩)
    · exact .inr (.inl h)

end Roster.KeyOrder

/-- An entry that an inspector can be given: a blueprint under a tag, or a rule under a
name. -/
inductive Entry
  | blueprint (tag : TypeTag) (b : Blueprint)
  | rule (name : String) (rule : Rule)

def Entry.key : Entry → TypeTag ⊕ String
  | .blueprint tag _ => .inl tag
  | .rule name _ => .inr name

namespace Inspector

def enter (i : Inspector) : Entry → Inspector
  | .blueprint tag b => { i with blueprints := i.blueprints.insert tag b }
  | .rule name rule => { i with rules := ⟨i.rules.rules.insert name rule⟩ }

theorem enter_comm {x y : Entry} (h : x.key ≠ y.key) (i : Inspector) :
    (i.enter x).enter y = (i.enter y).enter x := by
  cases x with
  | blueprint tag b =>
    cases y with
    | blueprint tag' b' =>
      have hne : tag ≠ tag' := by
        rintro rfl
        exact h rfl
      simp only [enter, Roster.insert_comm .typeTag hne]
    | rule name rule => rfl
  | rule name rule =>
    cases y with
    | blueprint tag b => rfl
    | rule name' rule' =>
      have hne : name ≠ name' := by
        rintro rfl
        exact h rfl
      simp only [enter, Roster.insert_comm .string hne]

theorem find?_enter {x : Entry} {tag : TypeTag} (h : x.key ≠ .inl tag) (i : Inspector) :
    (i.enter x).blueprints.find? tag = i.blueprints.find? tag := by
  cases x with
  | blueprint tag' b =>
    have hne : tag' ≠ tag := fun he => h (congrArg _ he)
    rw [enter, Roster.find?_insert, if_neg hne]
  | rule name rule => rfl

/-- A rule that no token calls makes no difference to the tokens, and neither does a
blueprint. -/
theorem lexicon_enter_agree {x : Entry} {tokens : List Token}
    (h : ∀ t ∈ tokens, x.key ≠ .inr t.name) (i : Inspector) :
    (i.enter x).lexicon.Agree i.lexicon tokens := by
  cases x with
  | blueprint tag b => exact ⟨rfl, fun _ _ => rfl⟩
  | rule name rule =>
    refine ⟨rfl, fun t ht => ?_⟩
    have hne : name ≠ t.name := fun he => h t ht (congrArg _ he)
    have hfind := Roster.find?_insert i.rules.rules name rule t.name
    rwa [if_neg hne] at hfind

end Inspector

/-- What a step does that sets up one thing. It looks for the entry to make, which is
always under the same key, and makes it if there is one. -/
structure Setup where
  key : TypeTag ⊕ String
  answer : Answer
  entry : Inspector → Except Fault Entry
  key_entry : ∀ {i : Inspector} {x : Entry}, entry i = .ok x → x.key = key

namespace Setup

def step (u : Setup) (i : Inspector) : Inspector × Answer :=
  i.attempt u.answer ((u.entry i).map i.enter)

/-- Whether entries under a key make no difference to the setup. -/
def Ignores (u : Setup) (key : TypeTag ⊕ String) : Prop :=
  ∀ (i : Inspector) (x : Entry), x.key = key → u.entry (i.enter x) = u.entry i

/-- Setups that make their entries under different keys, and ignore each other's. -/
structure Apart (u w : Setup) : Prop where
  key_ne : u.key ≠ w.key
  left : u.Ignores w.key
  right : w.Ignores u.key

theorem Apart.symm {u w : Setup} (h : u.Apart w) : w.Apart u := ⟨h.key_ne.symm, h.right, h.left⟩

theorem step_of_error {u : Setup} {i : Inspector} {f : Fault} (h : u.entry i = .error f) :
    u.step i = (i, .fault f) := by
  rw [step, h]
  rfl

theorem step_of_ok {u : Setup} {i : Inspector} {x : Entry} (h : u.entry i = .ok x) :
    u.step i = (i.enter x, u.answer) := by
  rw [step, h]
  rfl

/-- A setup answers the same after another one that is apart from it. -/
theorem Apart.entry_step {u w : Setup} (h : u.Apart w) (i : Inspector) :
    u.entry (w.step i).1 = u.entry i := by
  cases hw : w.entry i with
  | error f => rw [step_of_error hw]
  | ok x =>
    rw [step_of_ok hw]
    exact h.left i x (w.key_entry hw)

theorem Apart.answer_step {u w : Setup} (h : u.Apart w) (i : Inspector) :
    (u.step (w.step i).1).2 = (u.step i).2 := by
  have hentry := h.entry_step i
  cases hu : u.entry i with
  | error f =>
    rw [hu] at hentry
    rw [step_of_error hentry, step_of_error hu]
  | ok x =>
    rw [hu] at hentry
    rw [step_of_ok hentry, step_of_ok hu]

theorem Apart.step_comm {u w : Setup} (h : u.Apart w) (i : Inspector) :
    (w.step (u.step i).1).1 = (u.step (w.step i).1).1 := by
  have hentry := h.entry_step i
  have hentry' := h.symm.entry_step i
  cases hu : u.entry i with
  | error f =>
    rw [hu] at hentry
    rw [step_of_error hentry, step_of_error hu]
  | ok x =>
    cases hw : w.entry i with
    | error f =>
      rw [hw] at hentry'
      rw [step_of_error hentry', step_of_error hw]
    | ok y =>
      rw [hu] at hentry
      rw [hw] at hentry'
      have hne : x.key ≠ y.key := by
        rw [u.key_entry hu, w.key_entry hw]
        exact h.key_ne
      rw [step_of_ok hentry, step_of_ok hentry', step_of_ok hu, step_of_ok hw]
      exact Inspector.enter_comm hne i

def register (t : RecordType) : Setup where
  key := .inl t.tag
  answer := .registered t.fields.length
  entry i :=
    if i.blueprints.contains t.tag then .error (.alreadyRegistered t.tag.name)
    else (Blueprint.ofType i.lexicon t).map (.blueprint t.tag)
  key_entry := by
    intro i x h
    split at h
    · cases h
    · obtain ⟨b, -, rfl⟩ := map_eq_ok_iff.mp h
      rfl

def addRule (name : String) (rule : Rule) : Setup where
  key := .inr name
  answer := .done
  entry _ :=
    if RuleBook.isReserved name then .error (.reservedRule name) else .ok (.rule name rule)
  key_entry := by
    intro i x h
    split at h
    · cases h
    · cases h
      rfl

def addRecordRule (tag : TypeTag) (rule : RecordRule) : Setup where
  key := .inl tag
  answer := .done
  entry i :=
    match i.blueprints.find? tag with
    | none => .error (.notRegistered tag.name)
    | some b => .ok (.blueprint tag (b.addRecordRule ⟨tag, rule⟩))
  key_entry := by
    intro i x h
    split at h
    · cases h
    · cases h
      rfl

theorem step_register (t : RecordType) (now : Instant) (i : Inspector) :
    i.step now (.register t) = (register t).step i := by
  have hregister : i.register t = ((register t).entry i).map i.enter := by
    dsimp only [Inspector.register, register]
    by_cases h : i.blueprints.contains t.tag = true
    · rw [if_pos h, if_pos h]
      rfl
    · rw [if_neg h, if_neg h]
      cases Blueprint.ofType i.lexicon t <;> rfl
  exact congrArg (i.attempt _) hregister

theorem step_addRule (name : String) (rule : Rule) (now : Instant) (i : Inspector) :
    i.step now (.addRule name rule) = (addRule name rule).step i := by
  have hadd : i.addRule name rule = ((addRule name rule).entry i).map i.enter := by
    dsimp only [Inspector.addRule, RuleBook.insert, addRule]
    by_cases h : RuleBook.isReserved name = true
    · rw [if_pos h, if_pos h]
      rfl
    · rw [if_neg h, if_neg h]
      rfl
  exact congrArg (i.attempt _) hadd

theorem step_addRecordRule (tag : TypeTag) (rule : RecordRule) (now : Instant) (i : Inspector) :
    i.step now (.addRecordRule tag rule) = (addRecordRule tag rule).step i := by
  have hadd : i.addRecordRule tag rule = ((addRecordRule tag rule).entry i).map i.enter := by
    dsimp only [Inspector.addRecordRule, addRecordRule]
    cases i.blueprints.find? tag <;> rfl
  exact congrArg (i.attempt _) hadd

theorem register_ignores {t : RecordType} {key : TypeTag ⊕ String} (htag : key ≠ .inl t.tag)
    (htokens : ∀ token ∈ t.ruleTokens, key ≠ .inr token.name) : (register t).Ignores key := by
  rintro i x rfl
  have hcontains : (i.enter x).blueprints.contains t.tag = i.blueprints.contains t.tag :=
    congrArg Option.isSome (Inspector.find?_enter htag i)
  have htype : Blueprint.ofType (i.enter x).lexicon t = Blueprint.ofType i.lexicon t :=
    Blueprint.ofType_eq_of_agree (Inspector.lexicon_enter_agree htokens i)
  unfold register
  dsimp only
  rw [hcontains, htype]

theorem addRule_ignores (name : String) (rule : Rule) (key : TypeTag ⊕ String) :
    (addRule name rule).Ignores key := fun _ _ _ => rfl

theorem addRecordRule_ignores {tag : TypeTag} {key : TypeTag ⊕ String} (htag : key ≠ .inl tag)
    (rule : RecordRule) : (addRecordRule tag rule).Ignores key := by
  rintro i x rfl
  unfold addRecordRule
  dsimp only
  rw [Inspector.find?_enter htag]

end Setup

/-- Steps that set up things which do not concern each other. A rule does not concern a
type if no token of the annotations of the type has its name. -/
inductive Step.Independent : Step → Step → Prop
  | registrations (t t' : RecordType) (h : t.tag ≠ t'.tag) :
      Independent (.register t) (.register t')
  | rules (name name' : String) (rule rule' : Rule) (h : name ≠ name') :
      Independent (.addRule name rule) (.addRule name' rule')
  | recordRules (tag tag' : TypeTag) (rule rule' : RecordRule) (h : tag ≠ tag') :
      Independent (.addRecordRule tag rule) (.addRecordRule tag' rule')
  | registrationRecordRule (t : RecordType) (tag : TypeTag) (rule : RecordRule)
      (h : t.tag ≠ tag) : Independent (.register t) (.addRecordRule tag rule)
  | ruleRecordRule (name : String) (rule : Rule) (tag : TypeTag) (recordRule : RecordRule) :
      Independent (.addRule name rule) (.addRecordRule tag recordRule)
  | ruleRegistration (name : String) (rule : Rule) (t : RecordType)
      (h : ∀ token ∈ t.ruleTokens, token.name ≠ name) :
      Independent (.addRule name rule) (.register t)

/-- Independent steps are setups that are apart. -/
theorem Step.Independent.exists_apart {s s' : Step} (h : s.Independent s') (now : Instant) :
    ∃ u w : Setup, u.Apart w ∧ (∀ i : Inspector, i.step now s = u.step i) ∧
      ∀ i : Inspector, i.step now s' = w.step i := by
  have htag {tag tag' : TypeTag} (hne : tag ≠ tag') :
      (.inl tag : TypeTag ⊕ String) ≠ .inl tag' := fun he => hne (Sum.inl.inj he)
  have hname {name name' : String} (hne : name ≠ name') :
      (.inr name : TypeTag ⊕ String) ≠ .inr name' := fun he => hne (Sum.inr.inj he)
  cases h with
  | registrations t t' h =>
    have hleft := Setup.register_ignores (t := t) (htag h.symm) nofun
    have hright := Setup.register_ignores (t := t') (htag h) nofun
    exact ⟨.register t, .register t', ⟨htag h, hleft, hright⟩, Setup.step_register t now,
      Setup.step_register t' now⟩
  | rules name name' rule rule' h =>
    have hleft := Setup.addRule_ignores name rule (.inr name')
    have hright := Setup.addRule_ignores name' rule' (.inr name)
    exact ⟨.addRule name rule, .addRule name' rule', ⟨hname h, hleft, hright⟩,
      Setup.step_addRule name rule now,
      Setup.step_addRule name' rule' now⟩
  | recordRules tag tag' rule rule' h =>
    have hleft := Setup.addRecordRule_ignores (htag h.symm) rule
    have hright := Setup.addRecordRule_ignores (htag h) rule'
    exact ⟨.addRecordRule tag rule, .addRecordRule tag' rule', ⟨htag h, hleft, hright⟩,
      Setup.step_addRecordRule tag rule now,
      Setup.step_addRecordRule tag' rule' now⟩
  | registrationRecordRule t tag rule h =>
    have hleft := Setup.register_ignores (t := t) (htag h.symm) nofun
    have hright := Setup.addRecordRule_ignores (htag h) rule
    exact ⟨.register t, .addRecordRule tag rule, ⟨htag h, hleft, hright⟩,
      Setup.step_register t now,
      Setup.step_addRecordRule tag rule now⟩
  | ruleRecordRule name rule tag recordRule =>
    have hleft := Setup.addRule_ignores name rule (.inl tag)
    have hright : (Setup.addRecordRule tag recordRule).Ignores (.inr name) :=
      Setup.addRecordRule_ignores Sum.inr_ne_inl recordRule
    exact ⟨.addRule name rule, .addRecordRule tag recordRule, ⟨nofun, hleft, hright⟩,
      Setup.step_addRule name rule now, Setup.step_addRecordRule tag recordRule now⟩
  | ruleRegistration name rule t h =>
    have hleft := Setup.addRule_ignores name rule (.inl t.tag)
    have hright : (Setup.register t).Ignores (.inr name) :=
      Setup.register_ignores Sum.inr_ne_inl fun token htoken => hname (h token htoken).symm
    exact ⟨.addRule name rule, .register t, ⟨nofun, hleft, hright⟩,
      Setup.step_addRule name rule now, Setup.step_register t now⟩

/-- The rule for whole records of a type that a step adds. -/
def Step.recordRule? (tag : TypeTag) : Step → Option RecordRule
  | .addRecordRule tag' rule => if tag' = tag then some rule else none
  | _ => none

namespace Inspector

variable {i : Inspector} {now : Instant}

theorem step_of_independent {s s' : Step} (h : s.Independent s') (i : Inspector) (now : Instant) :
    ((i.step now s).1.step now s').1 = ((i.step now s').1.step now s).1 ∧
      ((i.step now s).1.step now s').2 = (i.step now s').2 ∧
      ((i.step now s').1.step now s).2 = (i.step now s).2 := by
  obtain ⟨u, w, hapart, hu, hw⟩ := h.exists_apart now
  simp only [hu, hw]
  exact ⟨hapart.step_comm i, hapart.symm.answer_step i, hapart.answer_step i⟩

/-- Registrations of different types are each answered as if there were no other one. -/
theorem run_registrations {ts : List RecordType} (h : (ts.map RecordType.tag).Nodup) (i : Inspector)
    (now : Instant) (later : List Step) :
    i.run now (ts.map .register ++ later) =
      let last := ts.foldl (fun i t => (i.step now (.register t)).1) i
      ((last.run now later).1,
        ts.map (fun t => (i.step now (.register t)).2) ++ (last.run now later).2) := by
  induction ts generalizing i with
  | nil => rfl
  | cons t rest ih =>
    obtain ⟨hfirst, hrest⟩ := List.nodup_cons.mp h
    have hanswer : ∀ t' ∈ rest,
        ((i.step now (.register t)).1.step now (.register t')).2 =
          (i.step now (.register t')).2 := by
      intro t' ht'
      have hne : t.tag ≠ t'.tag := by
        intro he
        rw [he] at hfirst
        exact hfirst (List.mem_map_of_mem ht')
      exact (step_of_independent (.registrations t t' hne) i now).2.1
    rw [List.map_cons, List.cons_append, run_cons, ih hrest]
    simp only [List.map_cons, List.foldl_cons, List.cons_append, List.map_congr_left hanswer]

theorem foldl_register_eq_of_perm {ts ts' : List RecordType} (hperm : ts.Perm ts')
    (h : (ts.map RecordType.tag).Nodup) (i : Inspector) (now : Instant) :
    ts.foldl (fun i t => (i.step now (.register t)).1) i =
      ts'.foldl (fun i t => (i.step now (.register t)).1) i := by
  induction hperm generalizing i with
  | nil => rfl
  | cons t _ ih => exact ih (List.nodup_cons.mp h).2 _
  | swap t t' rest =>
    have htag : t'.tag ≠ t.tag := by
      intro he
      have hnot := (List.nodup_cons.mp h).1
      rw [he] at hnot
      exact hnot List.mem_cons_self
    have hswap := (step_of_independent (.registrations t' t htag) i now).1
    exact congrArg (rest.foldl fun i t => (i.step now (.register t)).1) hswap
  | trans hperm _ ih ih' =>
    have hnodup := (hperm.map RecordType.tag).nodup h
    exact (ih h i).trans (ih' hnodup i)

/-- A registered type keeps its blueprint when types are registered. -/
theorem find?_register {i' : Inspector} {t : RecordType} {tag : TypeTag} {b : Blueprint}
    (h : i.blueprints.find? tag = some b) (hregister : i.register t = .ok i') :
    i'.blueprints.find? tag = some b := by
  obtain ⟨hnew, -, rfl⟩ := register_eq_ok_iff.mp hregister
  have hne : t.tag ≠ tag := by
    rintro rfl
    rw [isRegistered, Roster.contains, h] at hnew
    cases hnew
  rw [Roster.find?_insert, if_neg hne, h]

theorem find?_registerAll {tag : TypeTag} {b : Blueprint}
    (h : i.blueprints.find? tag = some b) (ts : List RecordType) :
    (i.registerAll ts).1.blueprints.find? tag = some b := by
  induction ts generalizing i with
  | nil => exact h
  | cons t rest ih =>
    cases hregister : i.register t with
    | ok i' =>
      rw [registerAll_cons_of_ok hregister]
      exact ih (find?_register h hregister)
    | error f =>
      rw [registerAll_cons_of_error hregister]
      exact h

/-- A step adds at most one rule to those for the records of a type, as the last one. -/
theorem find?_step {tag : TypeTag} {b : Blueprint} (h : i.blueprints.find? tag = some b)
    (now : Instant) (s : Step) :
    (i.step now s).1.blueprints.find? tag = some { b with
      recordRules := b.recordRules ++ (s.recordRule? tag).toList.map (⟨tag, ·⟩) } := by
  have hsame (hnone : s.recordRule? tag = none) : some b = some { b with
      recordRules := b.recordRules ++ (s.recordRule? tag).toList.map (⟨tag, ·⟩) } := by
    rw [hnone, Option.toList_none, List.map_nil, List.append_nil]
  cases s with
  | register t =>
    rw [← hsame rfl, step]
    cases hregister : i.register t with
    | ok i' => exact find?_register h hregister
    | error f => exact h
  | registerAll ts =>
    rw [← hsame rfl]
    exact find?_registerAll h ts
  | addRule name rule =>
    rw [← hsame rfl, step]
    cases hadd : i.addRule name rule with
    | ok i' =>
      have hblueprints := (addRule_eq_ok hadd).2
      rw [attempt, hblueprints, h]
    | error f => exact h
  | addRecordRule tag' rule =>
    rw [step, Step.recordRule?]
    cases hadd : i.addRecordRule tag' rule with
    | ok i' =>
      obtain ⟨b', hb', rfl⟩ := addRecordRule_eq_ok_iff.mp hadd
      rw [attempt, Roster.find?_insert]
      by_cases htag : tag' = tag
      · subst htag
        rw [h] at hb'
        cases hb'
        rw [if_pos rfl, if_pos rfl]
        rfl
      · rw [if_neg htag, if_neg htag, h, Option.toList_none, List.map_nil, List.append_nil]
    | error f =>
      have hne : tag' ≠ tag := by
        rintro rfl
        rw [addRecordRule, h] at hadd
        cases hadd
      rw [attempt, if_neg hne, h, Option.toList_none, List.map_nil, List.append_nil]
  | _ =>
    rw [← hsame rfl]
    exact h

/-- The rules for the records of a type stand in the order in which a session adds them. -/
theorem find?_run {tag : TypeTag} {b : Blueprint} (h : i.blueprints.find? tag = some b)
    (now : Instant) (steps : List Step) :
    (i.run now steps).1.blueprints.find? tag = some { b with
      recordRules := b.recordRules ++ (steps.filterMap (·.recordRule? tag)).map (⟨tag, ·⟩) } := by
  induction steps generalizing i b with
  | nil => rw [List.filterMap_nil, List.map_nil, List.append_nil, run, h]
  | cons s rest ih =>
    rw [run_cons, ih (find?_step h now s)]
    congr 2
    rw [List.append_assoc, ← List.map_append]
    cases hrule : s.recordRule? tag with
    | none => rw [List.filterMap_cons_none hrule, Option.toList_none, List.nil_append]
    | some rule => rw [List.filterMap_cons_some hrule, Option.toList_some, List.singleton_append]

/-- Independent steps can be swapped: each of them is answered the same in either order,
and so is everything that comes later. Hence types can be registered in any order,
whether or not they refer to each other, while the rules for the records of one type
keep the order in which they are added. -/
theorem independent_steps_commute (i : Inspector) (now : Instant) :
    (∀ s s' later, Step.Independent s s' → ∃ last answers,
      i.run now (s :: s' :: later) =
          (last, (i.step now s).2 :: (i.step now s').2 :: answers) ∧
        i.run now (s' :: s :: later) =
          (last, (i.step now s').2 :: (i.step now s).2 :: answers)) ∧
    (∀ (ts ts' : List RecordType) later, (ts.map RecordType.tag).Nodup → ts.Perm ts' →
      ∃ last answers, i.run now (ts.map .register ++ later) =
          (last, ts.map (fun t => (i.step now (.register t)).2) ++ answers) ∧
        i.run now (ts'.map .register ++ later) =
          (last, ts'.map (fun t => (i.step now (.register t)).2) ++ answers)) ∧
    (∀ tag b steps, i.blueprints.find? tag = some b →
      (i.run now steps).1.blueprints.find? tag = some { b with
        recordRules :=
          b.recordRules ++ (steps.filterMap (·.recordRule? tag)).map (⟨tag, ·⟩) }) := by
  refine ⟨?_, ?_, fun tag b steps h => find?_run h now steps⟩
  · intro s s' later h
    obtain ⟨hlast, hright, hleft⟩ := step_of_independent h i now
    let both := ((i.step now s').1.step now s).1
    refine ⟨(both.run now later).1, (both.run now later).2, ?_, ?_⟩
    · rw [run_cons, run_cons, hright, hlast]
    · rw [run_cons, run_cons, hleft]
  · intro ts ts' later h hperm
    have hnodup : (ts'.map RecordType.tag).Nodup := (hperm.map _).nodup h
    refine ⟨_, _, run_registrations h i now later, ?_⟩
    rw [run_registrations hnodup, foldl_register_eq_of_perm hperm h]

theorem independent_steps_commute_user :
    let capital : Rule := .ofText fun label s => if s = "anna" then some label else none
    let noRecord : RecordRule := fun _ => .ok none
    let noUser : RecordRule := fun _ => .ok (some "no users")
    let tag := RecordType.user.tag
    (∃ last answers, run {} ⟨0⟩ [.addRule "capital" capital, .register .user, .ruleNames] =
        (last, .done :: .registered 4 :: answers) ∧
      run {} ⟨0⟩ [.register .user, .addRule "capital" capital, .ruleNames] =
        (last, .registered 4 :: .done :: answers)) ∧
    (∃ last f answers, run {} ⟨0⟩ [.register .user, .register .order, .inspected] =
        (last, .registered 4 :: .fault f :: answers) ∧
      run {} ⟨0⟩ [.register .order, .register .user, .inspected] =
        (last, .fault f :: .registered 4 :: answers)) ∧
    ∃ b : Blueprint, (run (step {} ⟨0⟩ (.register .user)).1 ⟨0⟩ [.addRecordRule tag noRecord,
        .register .order, .addRecordRule tag noUser]).1.blueprints.find? tag =
      some { b with recordRules := [⟨tag, noRecord⟩, ⟨tag, noUser⟩] } := by
  intro capital noRecord noUser tag
  have huser : (step {} ⟨0⟩ (.register .user)).2 = .registered 4 := by cbv
  have hreserved : RuleBook.isReserved "capital" = false := by decide +kernel
  have hcapital : (step {} ⟨0⟩ (.addRule "capital" capital)).2 = .done := by
    rw [step, addRule, RuleBook.insert, hreserved]
    rfl
  have htokens : ∀ token ∈ RecordType.user.ruleTokens, token.name ≠ "capital" := by decide +kernel
  refine ⟨?_, ?_, ?_⟩
  · obtain ⟨last, answers, hfirst, hsecond⟩ := (independent_steps_commute {} ⟨0⟩).1 _ _
      [.ruleNames] (.ruleRegistration "capital" capital .user htokens)
    rw [huser, hcapital] at hfirst hsecond
    exact ⟨last, answers, hfirst, hsecond⟩
  · obtain ⟨last, answers, hfirst, hsecond⟩ := (independent_steps_commute {} ⟨0⟩).2.1
      [.user, .order] [.order, .user] [.inspected] (by decide) (.swap _ _ _)
    have horder : (step {} ⟨0⟩ (.register .order)).2 = .fault (.registration "Order" "count"
      ⟨"max", some "many"⟩ (.malformed (.notWhole .invalidDigit))) := by cbv
    simp only [List.map_cons, List.map_nil, huser, horder] at hfirst hsecond
    exact ⟨last, _, answers, hfirst, hsecond⟩
  · have hregistered : ((step {} ⟨0⟩ (.register .user)).1.blueprints.find? tag).map
        (·.recordRules.length) = some 0 := by cbv
    obtain ⟨b, hb, hnone⟩ := Option.map_eq_some_iff.mp hregistered
    have hrules := (independent_steps_commute _ ⟨0⟩).2.2 tag b [.addRecordRule tag noRecord,
      .register .order, .addRecordRule tag noUser] hb
    rw [List.length_eq_zero_iff.mp hnone] at hrules
    exact ⟨b, hrules⟩

end Inspector

end RecordValidation
