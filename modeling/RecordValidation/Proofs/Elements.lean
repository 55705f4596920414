import RecordValidation.Proofs.Blank
import RecordValidation.Proofs.Nesting

/-!
The elements of a sequence are judged one by one. What is found in an element depends on
nothing but the element and its index, and is reported at or below the label of the element.
So two sequences that differ in one element have the same violations but for one block, and
there is nothing in the block if the element passes.
-/

namespace RecordValidation

open Annotation

namespace Transcript

theorem exists_of_mem_found_append {l l' : List Inquiry} {v : Violation}
    (h : v ∈ (ofInquiries (l ++ l')).found) :
    v ∈ (ofInquiries l).found ∨ v ∈ (ofInquiries l').found := by
  rw [ofInquiries_append] at h
  cases hfault : (ofInquiries l).fault with
  | some f =>
    rw [andThen_of_fault hfault] at h
    exact .inl h
  | none =>
    rw [andThen_of_no_fault hfault] at h
    exact List.mem_append.mp h

/-- Two lists of inquiries go without a fault if both of them do, and then bring to light what
both of them do. -/
theorem found_append {l l' : List Inquiry} (h : (ofInquiries (l ++ l')).fault = none) :
    (ofInquiries l).fault = none ∧ (ofInquiries l').fault = none ∧
      (ofInquiries (l ++ l')).found = (ofInquiries l).found ++ (ofInquiries l').found := by
  rw [ofInquiries_append] at h ⊢
  obtain ⟨hl, hl'⟩ := fault_andThen_eq_none_iff.mp h
  exact ⟨hl, hl', by rw [andThen_of_no_fault hl]⟩

end Transcript

namespace Terrain

variable (t : Terrain) (c : Constraint) {place : Place} {level : Nat}

theorem elements_append (start : Nat) (front rest : List Value) :
    t.elements c place start level (front ++ rest) =
      t.elements c place start level front ++
        t.elements c place (start + front.length) level rest := by
  induction front generalizing start with
  | nil => simp only [List.nil_append, elements, List.length_nil, Nat.add_zero]
  | cons item front ih =>
    rw [List.cons_append, elements, elements, ih, List.append_assoc, List.length_cons,
      Nat.add_assoc, Nat.add_comm 1]

variable {t c}

/-- What is found among elements is found in one of them. -/
theorem exists_of_mem_found_elements {start : Nat} {items : List Value} {v : Violation}
    (h : v ∈ (Transcript.ofInquiries (t.elements c place start level items)).found) :
    ∃ index item, items[index]? = some item ∧ v ∈ (Transcript.ofInquiries
      (t.agenda c false (place.element (start + index)) level item)).found := by
  induction items generalizing start with
  | nil =>
    simp only [elements] at h
    cases h
  | cons item rest ih =>
    rw [elements] at h
    rcases Transcript.exists_of_mem_found_append h with h | h
    · exact ⟨0, item, rfl, h⟩
    · obtain ⟨index, item', hitem, h⟩ := ih h
      refine ⟨index + 1, item', hitem, ?_⟩
      rwa [Nat.add_comm index 1, ← Nat.add_assoc]

end Terrain

/-- The rules before a dive are those of the sequence, the rules after it those of its
elements. -/
theorem Constraint.compile_sequence_eq_ok {lex : Lexicon} {element : Shape}
    {tokens head tail : List Token} {c : Constraint} (hsplit : splitDive tokens = (head, some tail))
    (h : compile lex (.sequence element) tokens = .ok c) :
    compile lex element tail = .ok (.ofTokens lex element tail) ∧
      c = .sequence (.ofTokens .sequence lex head) (.ofTokens lex element tail) := by
  obtain ⟨hform, rfl⟩ := (compile_eq_ok_iff _).mp h
  rcases flat_or_eq_append tokens with hflat | ⟨head', tail', hflat, rfl⟩
  · rw [splitDive_of_flat hflat] at hsplit
    cases hsplit
  rw [splitDive_append hflat] at hsplit
  cases hsplit
  obtain ⟨-, htail⟩ := (WellFormed.sequence_append_iff hflat).mp hform
  exact ⟨(compile_eq_ok_iff element).mpr ⟨htail, rfl⟩, by rw [ofTokens, splitDive_append hflat]⟩

namespace Scope

variable {scope : Scope} {c : Constraint} {label : String}

/-- A check for all violations comes to an end if there is no fault, with what it has found. -/
theorem check_eq_ok_iff (hall : scope.extent = .all) {place : Place}
    (hplace : place.path? = some label) {nullable : Bool} {value : Value}
    {survey after : Survey} :
    scope.check c nullable label value survey = .ok () after ↔
      (Transcript.ofInquiries (scope.terrain.agenda c nullable place survey.level value)).fault =
          none ∧
        after = { survey with found := survey.found ++ (Transcript.ofInquiries
          (scope.terrain.agenda c nullable place survey.level value)).found } := by
  rw [scope.check_follows c nullable hplace value survey, askAll_apply, hall]
  generalize Transcript.ofInquiries (scope.terrain.agenda c nullable place survey.level value) = t
  obtain ⟨found, fault⟩ := t
  cases fault with
  | some f => exact ⟨nofun, fun h => nomatch h.1⟩
  | none =>
    constructor
    · intro h
      cases h
      exact ⟨rfl, rfl⟩
    · rintro ⟨-, rfl⟩
      rfl

/-- Whether nothing is found in a value when it is checked on its own. -/
def Passes (scope : Scope) (c : Constraint) (label : String) (level : Nat) (value : Value) : Prop :=
  scope.check c false label value { level } = .ok () { level }

theorem found_of_passes (hall : scope.extent = .all) {place : Place}
    (hplace : place.path? = some label) {level : Nat} {value : Value}
    (h : scope.Passes c label level value) :
    (Transcript.ofInquiries (scope.terrain.agenda c false place level value)).found = [] := by
  obtain ⟨-, hsurvey⟩ := (check_eq_ok_iff hall hplace).mp h
  exact (congrArg Survey.found hsurvey).symm

end Scope

/-- All that a check of a dived sequence asks, in the order in which it is asked: whether there
are too many elements or too few, and then about the elements before one of them, about that
one, and about the elements after it. -/
theorem Terrain.agenda_dived (t : Terrain) {head : Segment Nat Empty} (target : Constraint)
    (hcustom : head.custom = []) (nullable : Bool) (label : String) (level : Nat)
    (front rest : List Value) (x : Value) :
    t.agenda (.sequence head target) nullable (.labelled label) level
        (.sequence (front ++ x :: rest)) =
      (head.failures (.sequence (front.length + (rest.length + 1))) label).map
          (.builtin (.labelled label) (.sequence (front ++ x :: rest))) ++
        (t.elements target (.labelled label) 0 level front ++
          (t.agenda target false (.element (.labelled label) front.length) level x ++
            t.elements target (.labelled label) (front.length + 1) level rest)) := by
  have hlabel : (Place.labelled label).label = label := rfl
  simp only [agenda, Inquiry.ofSegment, hcustom, Inquiry.ofRules, List.map_nil, List.append_nil,
    hlabel, elements_append, elements, Nat.zero_add, List.length_append, List.length_cons]

namespace Scope

variable {scope : Scope} {head : Segment Nat Empty} {target : Constraint} {label : String}
  {nullable : Bool} {front rest : List Value} {x : Value} {survey after : Survey}

/-- What a check of a dived sequence finds that comes to an end. -/
theorem found_of_check_dived (hall : scope.extent = .all) (hcustom : head.custom = [])
    (h : scope.check (.sequence head target) nullable label (.sequence (front ++ x :: rest)) survey =
      .ok () after) :
    ∃ block, scope.check target false (elementLabel label front.length) x ⟨survey.level, []⟩ =
        .ok () ⟨survey.level, block⟩ ∧
      after.found = survey.found ++
        ((head.failures (.sequence (front.length + (rest.length + 1))) label ++
          (Transcript.ofInquiries
            (scope.terrain.elements target (.labelled label) 0 survey.level front)).found) ++
        block ++
        (Transcript.ofInquiries (scope.terrain.elements target (.labelled label) (front.length + 1)
          survey.level rest)).found) := by
  have hplace : (Place.labelled label).path? = some label := rfl
  obtain ⟨hfault, rfl⟩ := (check_eq_ok_iff hall hplace).mp h
  rw [Terrain.agenda_dived _ _ hcustom] at hfault ⊢
  obtain ⟨-, hfault, hfound⟩ := Transcript.found_append hfault
  obtain ⟨-, hfault, hfound'⟩ := Transcript.found_append hfault
  obtain ⟨hfault, -, hfound''⟩ := Transcript.found_append hfault
  refine ⟨_, (check_eq_ok_iff hall (Place.path?_element hplace _)).mpr ⟨hfault, rfl⟩, ?_⟩
  rw [hfound, hfound', hfound'', Transcript.ofInquiries_builtin]
  simp only [List.nil_append, List.append_assoc]

/-- What is found among the elements is found in one that does not pass, and has a label that
goes on from the label of this one. -/
theorem exists_of_mem_found_elements (hall : scope.extent = .all) {start level : Nat}
    {items : List Value} {v : Violation} (h : v ∈ (Transcript.ofInquiries
      (scope.terrain.elements target (.labelled label) start level items)).found) :
    ∃ index item, items[index]? = some item ∧
      ¬scope.Passes target (elementLabel label (start + index)) level item ∧
      LabelSpans (elementLabel label (start + index)) v.field := by
  obtain ⟨index, item, hitem, hv⟩ := Terrain.exists_of_mem_found_elements h
  have hplace : (Place.element (.labelled label) (start + index)).path? =
      some (elementLabel label (start + index)) := rfl
  refine ⟨index, item, hitem, fun hpasses => ?_, Terrain.labelSpans_of_mem_found hplace hv⟩
  rw [found_of_passes hall hplace hpasses] at hv
  cases hv

theorem labelSpans_of_check (hall : scope.extent = .all) {level : Nat} {found : List Violation}
    (h : scope.check target nullable label x ⟨level, []⟩ = .ok () ⟨level, found⟩) :
    ∀ v ∈ found, LabelSpans label v.field := by
  have hplace : (Place.labelled label).path? = some label := rfl
  obtain ⟨-, hsurvey⟩ := (check_eq_ok_iff hall hplace).mp h
  cases hsurvey
  intro v hv
  exact Terrain.labelSpans_of_mem_found hplace hv

theorem passes_iff {level : Nat} {found : List Violation}
    (h : scope.check target false label x ⟨level, []⟩ = .ok () ⟨level, found⟩) :
    found = [] ↔ scope.Passes target label level x := by
  constructor
  · rintro rfl
    exact h
  · intro hpasses
    rw [Passes, h] at hpasses
    cases hpasses
    rfl

end Scope

/-- Two lists of violations that have one block each for what is reported at or below a label,
and are the same before and after it. -/
structure DifferInBlock (label : String)
    (found found' before block block' later : List Violation) : Prop where
  eq : found = before ++ block ++ later
  eq' : found' = before ++ block' ++ later
  within : ∀ v ∈ block ++ block', LabelSpans label v.field
  outside : ∀ v ∈ before ++ later, ¬LabelSpans label v.field

/-- The elements of a dived sequence are judged one by one. If one element is exchanged, what
is found changes in one block only, with the violations at or below the label of the element.
The block is what is found in the element on its own, so it is empty if the element passes.
If all of the other elements pass, all violations are in the block, but for those of the
sequence itself. -/
theorem Constraint.elements_judged_one_by_one {lex : Lexicon} {element : Shape}
    {tokens head tail : List Token} {c : Constraint} (hsplit : splitDive tokens = (head, some tail))
    (hcustom : ∀ t ∈ head, lex.rules.find? t.name = none)
    (hc : compile lex (.sequence element) tokens = .ok c) :
    ∃ target, compile lex element tail = .ok target ∧
      ∀ (scope : Scope) (nullable : Bool) (label : String) (front rest : List Value)
        (x x' : Value) (survey after after' : Survey), scope.extent = .all →
        scope.check c nullable label (.sequence (front ++ x :: rest)) survey = .ok () after →
        scope.check c nullable label (.sequence (front ++ x' :: rest)) survey = .ok () after' →
        let here := Scope.elementLabel label front.length
        ∃ found found' before block block' later,
          after.found = survey.found ++ found ∧ after'.found = survey.found ++ found' ∧
          DifferInBlock here found found' before block block' later ∧
          (block = [] ↔ scope.Passes target here survey.level x) ∧
          (block' = [] ↔ scope.Passes target here survey.level x') ∧
          ((∀ index item, index ≠ front.length → (front ++ x :: rest)[index]? = some item →
              scope.Passes target (Scope.elementLabel label index) survey.level item) →
            ∀ v ∈ found, v.field = label ∨ LabelSpans here v.field) := by
  obtain ⟨htarget, rfl⟩ := compile_sequence_eq_ok hsplit hc
  refine ⟨_, htarget, ?_⟩
  intro scope nullable label front rest x x' survey after after' hall h h' here
  have hrules : (Segment.ofTokens .sequence lex head).custom = [] :=
    Segment.custom_ofTokens_eq_nil hcustom
  obtain ⟨block, hblock, hfound⟩ := Scope.found_of_check_dived hall hrules h
  obtain ⟨block', hblock', hfound'⟩ := Scope.found_of_check_dived hall hrules h'
  refine ⟨_, _, _, block, block', _, hfound, hfound', ⟨rfl, rfl, ?_, ?_⟩,
    Scope.passes_iff hblock, Scope.passes_iff hblock', ?_⟩
  · intro v hv
    rcases List.mem_append.mp hv with hv | hv
    · exact Scope.labelSpans_of_check hall hblock v hv
    · exact Scope.labelSpans_of_check hall hblock' v hv
  · intro v hv hhere
    rcases List.mem_append.mp hv with hv | hv
    · rcases List.mem_append.mp hv with hv | hv
      · rw [Segment.field_of_mem_failures hv] at hhere
        exact LabelSpans.not_elementLabel label front.length hhere
      · obtain ⟨index, item, hitem, -, hspans⟩ := Scope.exists_of_mem_found_elements hall hv
        have hlt : index < front.length := (List.getElem?_eq_some_iff.mp hitem).1
        have heq := LabelSpans.index_eq hspans hhere
        omega
    · obtain ⟨index, item, hitem, -, hspans⟩ := Scope.exists_of_mem_found_elements hall hv
      have heq := LabelSpans.index_eq hspans hhere
      omega
  · intro hothers v hv
    rcases List.mem_append.mp hv with hv | hv
    · rcases List.mem_append.mp hv with hv | hv
      · rcases List.mem_append.mp hv with hv | hv
        · exact .inl (Segment.field_of_mem_failures hv)
        · obtain ⟨index, item, hitem, hfails, -⟩ := Scope.exists_of_mem_found_elements hall hv
          have hlt : index < front.length := (List.getElem?_eq_some_iff.mp hitem).1
          have hpasses := hothers (0 + index) item (by omega)
            (by rw [Nat.zero_add, List.getElem?_append_left hlt, hitem])
          exact absurd hpasses hfails
      · exact .inr (Scope.labelSpans_of_check hall hblock v hv)
    · obtain ⟨index, item, hitem, hfails, -⟩ := Scope.exists_of_mem_found_elements hall hv
      have hget : (front ++ x :: rest)[front.length + 1 + index]? = some item := by
        rw [List.getElem?_append_right (by omega), ← hitem]
        simp only [show front.length + 1 + index - front.length = index + 1 by omega,
          List.getElem?_cons_succ]
      exact absurd (hothers _ item (by omega) hget) hfails

/-- Of three optional texts, none of which is there, the one in the middle is filled in. -/
theorem Constraint.elements_judged_one_by_one_tags :
    let tooMany : Violation := ⟨"tags", "tags can not have more than 2 elements", "max"⟩
    ∃ before block later,
      DifferInBlock "tags[1]"
        [tooMany, .required "tags[0]", .required "tags[1]", .required "tags[2]"]
        [tooMany, .required "tags[0]", .required "tags[2]"] before block [] later := by
  intro tooMany
  let scope : Scope := ⟨.empty, .all, 64, ⟨0⟩⟩
  have hsplit : splitDive (tokens "max:2|dive|req") =
      ([⟨"max", some "2"⟩], some [⟨"req", none⟩]) := by cbv
  have hcustom : ∀ t ∈ [Token.mk "max" (some "2")],
      (Lexicon.mk .empty {}).rules.find? t.name = none := fun _ _ => rfl
  obtain ⟨c, hc⟩ : ∃ c, compile ⟨.empty, {}⟩ (.sequence (.optional (.scalar .text)))
      (tokens "max:2|dive|req") = .ok c := (isSome_toOption _).mp (by cbv)
  obtain ⟨target, htarget, hjudged⟩ := elements_judged_one_by_one hsplit hcustom hc
  obtain ⟨-, rfl⟩ := compile_sequence_eq_ok hsplit hc
  cases htarget
  have hcheck : scope.check (.sequence (.ofTokens .sequence ⟨.empty, {}⟩ [⟨"max", some "2"⟩])
      (.ofTokens ⟨.empty, {}⟩ (.optional (.scalar .text)) [⟨"req", none⟩])) false "tags"
      (.sequence ([.null] ++ .null :: [.null])) {} = .ok () ⟨0,
        [tooMany, .required "tags[0]", .required "tags[1]", .required "tags[2]"]⟩ := by cbv
  have hcheck' : scope.check (.sequence (.ofTokens .sequence ⟨.empty, {}⟩ [⟨"max", some "2"⟩])
      (.ofTokens ⟨.empty, {}⟩ (.optional (.scalar .text)) [⟨"req", none⟩])) false "tags"
      (.sequence ([.null] ++ .just (.text "a") :: [.null])) {} = .ok () ⟨0,
        [tooMany, .required "tags[0]", .required "tags[2]"]⟩ := by cbv
  obtain ⟨found, found', before, block, block', later, hfound, hfound', hdiffer, -, hblock', -⟩ :=
    hjudged scope false "tags" _ _ _ _ _ _ _ rfl hcheck hcheck'
  have hpasses : scope.Passes (.ofTokens ⟨.empty, {}⟩ (.optional (.scalar .text)) [⟨"req", none⟩])
      "tags[1]" 0 (.just (.text "a")) := by
    unfold Scope.Passes
    cbv
  cases hblock'.mpr hpasses
  cases hfound
  cases hfound'
  exact ⟨before, block, later, hdiffer⟩

end RecordValidation
