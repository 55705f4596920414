import RecordValidation.Proofs.Independence

/-!
Names of rules. A rule can be entered in a book under each name that stands for it in
annotations, and under no other. After attempts to enter rules, of which any may have been
refused, the book has under each name the rule that was last accepted under it, and lists
the names in order.
-/

namespace RecordValidation

theorem Builtin.ofName?_eq_none_iff {name : String} :
    ofName? name = none ↔ name ∉ ["req", "min", "max", "in", "regex", "dive"] := by
  have hnames : ["req", "min", "max", "in", "regex", "dive"] = all.map Builtin.name := rfl
  rw [ofName?, List.find?_eq_none, hnames, List.mem_map]
  simp only [beq_iff_eq, not_exists, not_and]

/-- The names that can be given to rules. -/
structure RuleName (name : String) : Prop where
  ne_empty : name ≠ ""
  notBuiltin : name ∉ ["req", "min", "max", "in", "regex", "dive"]
  noBar : '|' ∉ name.toList
  noColon : ':' ∉ name.toList

namespace RuleName

variable {name : String}

theorem ofName?_eq_none (h : RuleName name) : Builtin.ofName? name = none :=
  Builtin.ofName?_eq_none_iff.mpr h.notBuiltin

/-- The name of a rule is read as a token without an argument. -/
theorem ofChars_toList (h : RuleName name) : Token.ofChars name.toList = ⟨name, none⟩ := by
  rw [Token.ofChars, cut_of_not_mem h.noColon]
  exact congrArg (Token.mk · none) String.ofList_toList

theorem isDive_eq_false (h : RuleName name) : Token.isDive ⟨name, none⟩ = false := by
  have hne : name ≠ Builtin.dive.name := by
    rintro rfl
    exact h.notBuiltin (by decide)
  rw [Token.isDive, beq_eq_false_iff_ne]
  intro heq
  exact hne (congrArg Token.name heq)

/-- Where the name of a rule stands between bars in an annotation, there is its token. -/
theorem tokens_of_pieces (h : RuleName name) {text : String} {before after : List (List Char)}
    (hpieces : pieces '|' text.toList = before ++ name.toList :: after) :
    Annotation.tokens text =
      before.map Token.ofChars ++ ⟨name, none⟩ :: after.map Token.ofChars := by
  have hne : ¬text.isEmpty = true := by
    intro hempty
    have hmem : name.toList ∈ pieces '|' text.toList := by
      rw [hpieces]
      exact List.mem_append_right before List.mem_cons_self
    rw [String.isEmpty_iff.mp hempty] at hmem
    have hnil : name.toList = [] := List.mem_singleton.mp hmem
    exact h.ne_empty (String.toList_eq_nil_iff.mp hnil)
  unfold Annotation.tokens
  rw [if_neg hne, hpieces, List.map_append, List.map_cons, h.ofChars_toList]

theorem tokens_self (h : RuleName name) : Annotation.tokens name = [⟨name, none⟩] := by
  have hpieces : pieces '|' name.toList = [] ++ name.toList :: [] := pieces_of_not_mem h.noBar
  exact h.tokens_of_pieces hpieces

end RuleName

namespace RuleBook

theorem isReserved_eq_false_iff {name : String} : isReserved name = false ↔ RuleName name := by
  have hbuiltin : Builtin.ofName? name = none ↔ _ := Builtin.ofName?_eq_none_iff
  simp only [isReserved, Bool.or_eq_false_iff, Option.isSome_eq_false_iff,
    Option.isNone_iff_eq_none, decide_eq_false_iff_not, hbuiltin, and_assoc]
  constructor
  · rintro ⟨hempty, hnot, hbar, hcolon⟩
    exact ⟨by simpa using hempty, hnot, hbar, hcolon⟩
  · rintro ⟨hempty, hnot, hbar, hcolon⟩
    exact ⟨by simpa using hempty, hnot, hbar, hcolon⟩

instance (name : String) : Decidable (RuleName name) := decidable_of_iff _ isReserved_eq_false_iff

variable {book : RuleBook} {name : String} {rule : Rule}

theorem insert_of_ruleName (h : RuleName name) :
    book.insert name rule = .ok ⟨book.rules.insert name rule⟩ := by
  rw [insert, isReserved_eq_false_iff.mpr h]
  rfl

theorem insert_of_not_ruleName (h : ¬RuleName name) :
    book.insert name rule = .error (.reservedRule name) := by
  have hreserved : isReserved name = true :=
    Bool.of_not_eq_false fun hfree => h (isReserved_eq_false_iff.mp hfree)
  rw [insert, hreserved]
  rfl

/-- The book after an attempt to enter a rule. -/
def enter (book : RuleBook) (attempt : String × Rule) : RuleBook :=
  match book.insert attempt.1 attempt.2 with
  | .ok book => book
  | .error _ => book

def enterAll (book : RuleBook) (attempts : List (String × Rule)) : RuleBook :=
  attempts.foldl enter book

/-- The rule that was last accepted under a name. -/
def lastAccepted? (attempts : List (String × Rule)) (name : String) : Option Rule :=
  ((attempts.filter fun attempt => attempt.1 = name ∧ RuleName attempt.1).getLast?).map (·.2)

theorem enter_of_ruleName (h : RuleName name) :
    book.enter (name, rule) = ⟨book.rules.insert name rule⟩ := by
  rw [enter, insert_of_ruleName h]

theorem enter_of_not_ruleName (h : ¬RuleName name) : book.enter (name, rule) = book := by
  rw [enter, insert_of_not_ruleName h]

theorem find?_enter (book : RuleBook) (attempt : String × Rule) (name : String) :
    (book.enter attempt).find? name =
      if attempt.1 = name ∧ RuleName attempt.1 then some attempt.2 else book.find? name := by
  obtain ⟨name', rule⟩ := attempt
  by_cases hname : RuleName name'
  · rw [enter_of_ruleName hname, find?, Roster.find?_insert]
    simp only [hname, and_true]
    rfl
  · rw [enter_of_not_ruleName hname, if_neg fun h => hname h.2]

theorem find?_enter_self (book : RuleBook) (h : RuleName name) (rule : Rule) :
    (book.enter (name, rule)).find? name = some rule := by
  rw [find?_enter, if_pos ⟨rfl, h⟩]

theorem lastAccepted?_cons (attempt : String × Rule) (rest : List (String × Rule))
    (name : String) :
    lastAccepted? (attempt :: rest) name = (lastAccepted? rest name).or
      (if attempt.1 = name ∧ RuleName attempt.1 then some attempt.2 else none) := by
  unfold lastAccepted?
  rw [List.filter_cons]
  by_cases h : attempt.1 = name ∧ RuleName attempt.1
  · rw [if_pos (decide_eq_true h), if_pos h, List.getLast?_cons]
    cases (rest.filter fun attempt => attempt.1 = name ∧ RuleName attempt.1).getLast? <;> rfl
  · rw [if_neg (by simpa using h), if_neg h, Option.or_none]

theorem find?_enterAll (book : RuleBook) (attempts : List (String × Rule)) (name : String) :
    (book.enterAll attempts).find? name =
      (lastAccepted? attempts name).or (book.find? name) := by
  induction attempts generalizing book with
  | nil => rfl
  | cons attempt rest ih =>
    have hrest : (book.enterAll (attempt :: rest)).find? name =
        (lastAccepted? rest name).or ((book.enter attempt).find? name) := ih (book.enter attempt)
    rw [hrest, find?_enter, lastAccepted?_cons, Option.or_assoc]
    split <;> rfl

/-- A rule was accepted under each name that is fit for rules and was tried, and under no
other. -/
theorem isSome_lastAccepted?_iff {attempts : List (String × Rule)} :
    (lastAccepted? attempts name).isSome ↔ RuleName name ∧ ∃ rule, (name, rule) ∈ attempts := by
  rw [lastAccepted?, Option.isSome_map, List.getLast?_isSome]
  constructor
  · intro hne
    obtain ⟨attempt, hmem⟩ := List.exists_mem_of_ne_nil _ hne
    obtain ⟨hattempt, haccepted⟩ := List.mem_filter.mp hmem
    obtain ⟨rfl, hname⟩ := of_decide_eq_true haccepted
    exact ⟨hname, attempt.2, hattempt⟩
  · rintro ⟨hname, rule, hattempt⟩
    exact List.ne_nil_of_mem (List.mem_filter.mpr ⟨hattempt, decide_eq_true ⟨rfl, hname⟩⟩)

theorem sorted_enterAll (h : book.rules.Sorted) (attempts : List (String × Rule)) :
    (book.enterAll attempts).rules.Sorted := by
  induction attempts generalizing book with
  | nil => exact h
  | cons attempt rest ih =>
    obtain ⟨name, rule⟩ := attempt
    have hnext : (book.enter (name, rule)).rules.Sorted := by
      by_cases hname : RuleName name
      · rw [enter_of_ruleName hname]
        exact Roster.sorted_insert .string h name rule
      · rw [enter_of_not_ruleName hname]
        exact h
    exact ih hnext

/-- The names of the rules that were accepted are listed in strict order. -/
theorem names_enterAll_pairwise (attempts : List (String × Rule)) :
    (empty.enterAll attempts).names.Pairwise (· < ·) := by
  have hempty : empty.rules.Sorted := List.Pairwise.nil
  exact sorted_enterAll hempty attempts

theorem mem_names_enterAll_iff {attempts : List (String × Rule)} :
    name ∈ (empty.enterAll attempts).names ↔ RuleName name ∧ ∃ rule, (name, rule) ∈ attempts := by
  have hfind : (empty.enterAll attempts).find? name = lastAccepted? attempts name := by
    rw [find?_enterAll]
    exact Option.or_none
  have hmem : name ∈ (empty.enterAll attempts).names ↔
      ((empty.enterAll attempts).find? name).isSome := Roster.mem_keys_iff
  rw [hmem, hfind, isSome_lastAccepted?_iff]

/-- There are as many rules as different names were accepted. -/
theorem size_enterAll (attempts : List (String × Rule)) :
    (empty.enterAll attempts).size =
      ((attempts.map (·.1)).filter (RuleName ·)).dedup.length := by
  have hnodup : (empty.enterAll attempts).names.Nodup := by
    refine (names_enterAll_pairwise attempts).imp ?_
    rintro name _ hlt rfl
    exact String.lt_irrefl name hlt
  have hsize : (empty.enterAll attempts).size = (empty.enterAll attempts).names.length :=
    (List.length_map ..).symm
  rw [hsize]
  refine ((List.perm_ext_iff_of_nodup hnodup (List.nodup_dedup _)).mpr fun name => ?_).length_eq
  rw [mem_names_enterAll_iff, List.mem_dedup, List.mem_filter]
  simp [and_comm]

end RuleBook

end RecordValidation
