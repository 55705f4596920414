import RecordValidation.Proofs.Position

/-!
Places within places. A place spans itself and whatever lies in it, and so does its label:
the labels of what lies in it go on with a dot or an opening bracket. Two fields of a record,
or two elements of a sequence, have nothing in common that both of them span. All that is
asked about a value is asked at places that the place of the value spans.
-/

namespace RecordValidation

namespace Place

/-- The places that are the given one or lie in it. -/
inductive Spans (outer : Place) : Place → Prop
  | refl : outer.Spans outer
  | field {p : Place} (h : outer.Spans p) (name : String) : outer.Spans (p.field name)
  | element {p : Place} (h : outer.Spans p) (index : Nat) : outer.Spans (p.element index)

/-- How many places there are around a place. -/
def depth : Place → Nat
  | .root | .labelled _ => 0
  | .field outer _ | .element outer _ => outer.depth + 1

namespace Spans

variable {a b p : Place}

theorem trans (h : a.Spans b) (h' : b.Spans p) : a.Spans p := by
  induction h' with
  | refl => exact h
  | field _ name ih => exact .field ih name
  | element _ index ih => exact .element ih index

theorem depth_le (h : a.Spans p) : a.depth ≤ p.depth := by
  induction h with
  | refl => exact le_rfl
  | field _ name ih => exact Nat.le_succ_of_le ih
  | element _ index ih => exact Nat.le_succ_of_le ih

theorem of_outer (h : a.Spans p) (hdepth : a.depth < p.depth) : a.Spans p.outer := by
  cases h with
  | refl => exact absurd hdepth (lt_irrefl _)
  | field h name => exact h
  | element h index => exact h

/-- Of the places around a place there is one only at each depth. -/
theorem eq_of_depth (h : a.Spans p) (h' : b.Spans p) (hdepth : a.depth = b.depth) : a = b := by
  induction h with
  | refl =>
    cases h' with
    | refl => rfl
    | field h' name | element h' index =>
      have hle := h'.depth_le
      rw [← hdepth, depth] at hle
      omega
  | @field p h name ih =>
    have hle := h.depth_le
    refine ih (h'.of_outer ?_)
    rw [← hdepth, depth]
    omega
  | @element p h index ih =>
    have hle := h.depth_le
    refine ih (h'.of_outer ?_)
    rw [← hdepth, depth]
    omega

/-- Different fields have nothing in common. -/
theorem field_inj {name name' : String} (h : (a.field name).Spans p)
    (h' : (a.field name').Spans p) : name = name' := by
  cases eq_of_depth h h' rfl
  rfl

theorem element_inj {index index' : Nat} (h : (a.element index).Spans p)
    (h' : (a.element index').Spans p) : index = index' := by
  cases eq_of_depth h h' rfl
  rfl

end Spans

end Place

/-- Whether a label is the given one, or goes on with the name of a field or the index of an
element. -/
def LabelSpans (outer label : String) : Prop :=
  ∃ rest : List Char, label.toList = outer.toList ++ rest ∧ ∀ c ∈ rest.head?, c = '.' ∨ c = '['

namespace LabelSpans

variable {outer label : String}

theorem refl (label : String) : LabelSpans label label :=
  ⟨[], (List.append_nil _).symm, nofun⟩

theorem toList_fieldLabel (label name : String) :
    (Scope.fieldLabel (some label) name).toList = label.toList ++ '.' :: name.toList := by
  simp [Scope.fieldLabel]

theorem toList_elementLabel (label : String) (index : Nat) :
    (Scope.elementLabel label index).toList = label.toList ++ '[' :: Place.indexChars index := by
  simp [Scope.elementLabel, Place.indexChars]

theorem append (h : LabelSpans outer label) {label' : String} {c : Char} {after : List Char}
    (hlabel : label'.toList = label.toList ++ c :: after) (hc : c = '.' ∨ c = '[') :
    LabelSpans outer label' := by
  obtain ⟨rest, hrest, hhead⟩ := h
  refine ⟨rest ++ c :: after, by rw [hlabel, hrest, List.append_assoc], ?_⟩
  cases rest with
  | nil =>
    intro c' hc'
    cases hc'
    exact hc
  | cons first rest => exact hhead

theorem field (h : LabelSpans outer label) (name : String) :
    LabelSpans outer (Scope.fieldLabel (some label) name) :=
  h.append (toList_fieldLabel label name) (.inl rfl)

theorem element (h : LabelSpans outer label) (index : Nat) :
    LabelSpans outer (Scope.elementLabel label index) :=
  h.append (toList_elementLabel label index) (.inr rfl)

theorem toDigits_of_takeWhile (index : Nat) (rest : List Char) :
    (Place.indexChars index ++ rest).takeWhile Char.isDigit = Nat.toDigits 10 index := by
  rw [Place.indexChars, List.append_assoc,
    List.takeWhile_append_of_pos (Place.isDigit_toDigits index)]
  simp

/-- The labels of different elements have nothing in common, not even if one index begins
with the digits of the other. -/
theorem index_eq {index index' : Nat} (h : LabelSpans (Scope.elementLabel label index) outer)
    (h' : LabelSpans (Scope.elementLabel label index') outer) : index = index' := by
  obtain ⟨rest, hrest, -⟩ := h
  obtain ⟨rest', hrest', -⟩ := h'
  rw [hrest, toList_elementLabel, toList_elementLabel, List.append_assoc, List.append_assoc,
    List.cons_append, List.cons_append] at hrest'
  have hindex := (List.cons.inj (List.append_cancel_left hrest')).2
  have hdigits := congrArg (List.takeWhile Char.isDigit) hindex
  rw [toDigits_of_takeWhile, toDigits_of_takeWhile] at hdigits
  rw [← Nat.ofDigitChars_ten_toDigits (n := index), hdigits, Nat.ofDigitChars_ten_toDigits]

theorem not_elementLabel (label : String) (index : Nat) :
    ¬LabelSpans (Scope.elementLabel label index) label := by
  rintro ⟨rest, hrest, -⟩
  have hlength := congrArg List.length hrest
  rw [toList_elementLabel] at hlength
  simp only [List.length_append, List.length_cons] at hlength
  omega

end LabelSpans

namespace Place

variable {outer p : Place}

/-- What lies in a place has a label that goes on from the label of the place. -/
theorem Spans.labelSpans (h : outer.Spans p) {label : String} (hlabel : outer.path? = some label) :
    ∃ label', p.path? = some label' ∧ LabelSpans label label' := by
  induction h with
  | refl => exact ⟨label, hlabel, .refl label⟩
  | field _ name ih =>
    obtain ⟨label', hpath, hspans⟩ := ih
    exact ⟨_, by rw [path?_field, hpath], hspans.field name⟩
  | element _ index ih =>
    obtain ⟨label', hpath, hspans⟩ := ih
    exact ⟨_, path?_element hpath index, hspans.element index⟩

end Place

namespace LabelSpans

variable {outer label label' : String} {c : Char} {after : List Char}

/-- To go on from a label is to do so with the last part, or with one before it. -/
theorem of_append (h : LabelSpans outer label') (hlabel : label'.toList = label.toList ++ c :: after)
    (hdot : '.' ∉ after) (hopening : '[' ∉ after) : outer = label' ∨ LabelSpans outer label := by
  obtain ⟨rest, hrest, hhead⟩ := h
  rw [hlabel] at hrest
  cases rest with
  | nil => exact .inl (String.toList_injective (by rw [hlabel, hrest, List.append_nil]))
  | cons first rest =>
    right
    rcases List.append_eq_append_iff.mp hrest with ⟨m, hm, hafter⟩ | ⟨m, hm, hafter⟩
    · cases m with
      | nil =>
        rw [List.append_nil] at hm
        exact String.toList_injective hm ▸ .refl outer
      | cons c' m =>
        have hmem : first ∈ after := by
          rw [(List.cons.inj hafter).2]
          simp
        rcases hhead first rfl with rfl | rfl
        · exact absurd hmem hdot
        · exact absurd hmem hopening
    · refine ⟨m, hm, ?_⟩
      cases m with
      | nil => exact nofun
      | cons c' m =>
        rw [(List.cons.inj hafter).1] at hhead
        exact hhead

theorem eq_of_plain (h : LabelSpans outer label) (hname : PlainName label) : outer = label := by
  obtain ⟨rest, hrest, hhead⟩ := h
  cases rest with
  | nil => exact String.toList_injective (by rw [hrest, List.append_nil])
  | cons first rest =>
    have hmem : first ∈ label.toList := by
      rw [hrest]
      simp
    rcases hhead first rfl with rfl | rfl
    · exact absurd hmem hname.dot
    · exact absurd hmem hname.opening

end LabelSpans

/-- Among plain places, those whose labels go on from the label of a place lie in it. -/
theorem Place.Plain.spans_of_labelSpans {outer p : Place} (houter : outer.Plain) (h : p.Plain)
    {label label' : String} (hlabel : outer.path? = some label) (hlabel' : p.path? = some label')
    (hspans : LabelSpans label label') : outer.Spans p := by
  -- In the case that the labels are the same, the places are.
  have hsame : ∀ {p : Place}, p.Plain → p.path? = some label → outer.Spans p := by
    intro p hp hpath
    rw [houter.eq_of_path?_eq hp (hlabel.trans hpath.symm)]
    exact .refl
  induction h generalizing label' with
  | root => cases hlabel'
  | @field p name hp hname ih =>
    cases hpath : p.path? with
    | none =>
      rw [path?_field, hpath] at hlabel'
      cases hlabel'
      refine hsame (.field hp hname) ?_
      rw [path?_field, hpath, hspans.eq_of_plain hname]
    | some outerLabel =>
      rw [path?_field, hpath] at hlabel'
      cases hlabel'
      rcases hspans.of_append (LabelSpans.toList_fieldLabel outerLabel name) hname.dot hname.opening
        with rfl | hspans
      · exact hsame (.field hp hname) (by rw [path?_field, hpath])
      · exact .field (ih hpath hspans) name
  | @element p hp hne index ih =>
    cases hpath : p.path? with
    | none => exact absurd (path?_eq_none_iff.mp hpath) hne
    | some outerLabel =>
      rw [path?_element hpath] at hlabel'
      cases hlabel'
      rcases hspans.of_append (LabelSpans.toList_elementLabel outerLabel index)
        (not_mem_indexChars (by decide) (by decide) index)
        (not_mem_indexChars (by decide) (by decide) index) with rfl | hspans
      · exact hsame (.element hp hne index) (path?_element hpath index)
      · exact .element (ih hpath hspans) index

/-- An inquiry that is put at a place, and under its label. -/
inductive Inquiry.PutAt (place : Place) : Inquiry → Prop
  | required (value : Value) : PutAt place (.required place value)
  | builtin (value : Value) {v : Violation} (h : v.field = place.label) :
      PutAt place (.builtin place value v)
  | custom (value : Value) (station : Station) (rule : NamedRule) :
      PutAt place (.custom place value station rule)
  | record (tag : TypeTag) (fields : List Value) (model : String) (rule : OwnedRule) :
      PutAt place (.record place tag fields model rule)
  | refusal (f : Fault) : PutAt place (.refusal place f)

namespace Inquiry

variable {t : Terrain} {place : Place}

/-- What is reported by an inquiry has the label of the place where it was put. -/
theorem PutAt.field_eq {q : Inquiry} (h : q.PutAt place) {label : String}
    (hlabel : place.path? = some label) {v : Violation} (hanswer : q.answer = .ok (some v)) :
    v.field = label := by
  cases h with
  | required value =>
    cases hanswer
    exact Place.label_of_path? hlabel
  | builtin value hv =>
    cases hanswer
    rw [hv, Place.label_of_path? hlabel]
  | custom value station rule =>
    obtain ⟨message, -, rfl⟩ := custom_answer_eq_some hanswer
    exact Place.label_of_path? hlabel
  | record tag fields model rule =>
    rw [answer, hlabel, Option.getD_some] at hanswer
    split at hanswer <;> cases hanswer
    rfl
  | refusal f => cases hanswer

theorem putAt_absence (required : Bool) (value : Value) :
    ∀ q ∈ ofAbsence required place value, q.PutAt place := by
  intro q hq
  cases required with
  | false => cases hq
  | true =>
    cases List.mem_singleton.mp hq
    exact .required value

theorem putAt_rules (value : Value) (station : Station) (rules : List NamedRule) :
    ∀ q ∈ ofRules place value station rules, q.PutAt place := by
  intro q hq
  obtain ⟨rule, -, rfl⟩ := List.mem_map.mp hq
  exact .custom value station rule

theorem putAt_recordRules (b : Blueprint) (tag : TypeTag) (fields : List Value) :
    ∀ q ∈ ofRecordRules b place tag fields, q.PutAt place := by
  intro q hq
  obtain ⟨rule, -, rfl⟩ := List.mem_map.mp hq
  exact .record tag fields b.name rule

theorem putAt_mismatch (expected : Kind) (found : Value) :
    ∀ q ∈ ofMismatch place expected found, q.PutAt place := by
  intro q hq
  cases List.mem_singleton.mp hq
  exact .refusal _

theorem putAt_segment {β α : Type} (station : Station) (seg : Segment β α) (g : Gauge β α)
    (value : Value) : ∀ q ∈ ofSegment station seg g place value, q.PutAt place := by
  intro q hq
  rcases List.mem_append.mp hq with hq | hq
  · obtain ⟨v, hv, rfl⟩ := List.mem_map.mp hq
    exact .builtin value (Segment.field_of_mem_failures hv)
  · exact putAt_rules value station seg.custom q hq

theorem putAt_scalar (target : ScalarConstraint) (value : Value) :
    ∀ q ∈ t.scalar place target value, q.PutAt place := by
  cases target <;> cases value <;>
    first
    | exact putAt_segment _ _ _ _
    | exact putAt_mismatch _ _

theorem putAt_ifPresent (target : ScalarConstraint) (nullable : Bool) (value : Value) :
    ∀ q ∈ t.ifPresent place target nullable value, q.PutAt place := by
  unfold Terrain.ifPresent
  cases value.present? nullable with
  | none => exact putAt_absence target.required value
  | some present => exact putAt_scalar target present

theorem putAt_pointer (head : Segment Empty Empty) (target : ScalarConstraint) (value : Value) :
    ∀ q ∈ t.pointer place head target value, q.PutAt place := by
  intro q hq
  cases value with
  | null => exact putAt_absence head.required .null q hq
  | _ =>
    rcases List.mem_append.mp hq with hq | hq
    · exact putAt_rules _ .pointer head.custom q hq
    · exact putAt_ifPresent target false _ q hq

theorem putAt_plain (c : Constraint) (nullable : Bool) (value : Value) :
    ∀ q ∈ t.plain nullable place value c, q.PutAt place := by
  cases c with
  | unchecked => exact nofun
  | scalar target => exact putAt_ifPresent target nullable value
  | pointer head target => exact putAt_pointer head target value
  | sequence head element =>
    unfold Terrain.plain
    cases value.present? nullable with
    | none => exact putAt_absence head.required value
    | some present => exact putAt_mismatch .sequence present
  | record head =>
    unfold Terrain.plain
    cases value.present? nullable with
    | none => exact putAt_absence head.required value
    | some present => exact putAt_mismatch .record present

theorem putAt_entry (tag : TypeTag) (level : Nat) :
    ∀ q ∈ t.entry place tag level (fun _ => []), q.PutAt place := by
  intro q hq
  rcases Inspector.refusal_of_mem_entry hq with ⟨-, rfl⟩ | rfl <;> exact .refusal _

end Inquiry

namespace Terrain

open Inquiry

variable {t : Terrain} {s s' : Stage} {q : Inquiry}

/-- A survey is never led out of a place. -/
theorem Reaches.spans (h : t.Reaches s s') : s.place.Spans s'.place := by
  induction h with
  | refl => exact .refl
  | step _ hleads ih =>
    cases hleads with
    | just => exact ih
    | element => exact .element ih _
    | enter => exact ih
    | field => exact .field ih _

/-- A stage puts its own inquiries at its place, but for fields that it refuses to go on to. -/
theorem spans_of_mem_own (h : q ∈ s.own t) : ∃ p, s.place.Spans p ∧ q.PutAt p := by
  cases s with
  | record b place tag level fields =>
    rcases List.mem_append.mp h with h | h
    · obtain ⟨_, _, plan, -, -, -, -, rfl⟩ := Stage.mem_foreigners_iff.mp h
      exact ⟨_, .field .refl plan.name, .refusal _⟩
    · exact ⟨place, .refl, putAt_recordRules b tag fields q h⟩
  | value c nullable place level v =>
    refine ⟨place, .refl, ?_⟩
    have hplain : ∀ q ∈ t.plain nullable place v c, q.PutAt place := putAt_plain c nullable v
    cases c with
    | pointer head target => exact putAt_pointer head target v q h
    | sequence head element =>
      cases v with
      | just inner => cases h
      | sequence items => exact putAt_segment .sequence head _ _ q h
      | _ => exact hplain q h
    | record head =>
      cases v with
      | just inner => cases h
      | record tag fields =>
        rcases List.mem_append.mp h with h | h
        · exact putAt_rules _ .record head.custom q h
        · exact putAt_entry tag level q h
      | _ => exact hplain q h
    | _ =>
      cases v with
      | just inner => cases h
      | _ => exact hplain q h

/-- All that is asked about a value is asked at places that its own place spans. -/
theorem spans_of_mem_agenda {c : Constraint} {nullable : Bool} {place : Place} {level : Nat}
    {value : Value} (h : q ∈ t.agenda c nullable place level value) :
    ∃ p, place.Spans p ∧ q.PutAt p := by
  obtain ⟨s, hreach, hown⟩ :=
    (Stage.mem_agenda_iff_exists (.value c nullable place level value)).mp h
  obtain ⟨p, hspans, hput⟩ := spans_of_mem_own hown
  exact ⟨p, hreach.spans.trans hspans, hput⟩

/-- What is reported of a value has a label that goes on from the label of the value. -/
theorem labelSpans_of_mem_found {c : Constraint} {nullable : Bool} {place : Place} {level : Nat}
    {value : Value} {label : String} (hlabel : place.path? = some label) {v : Violation}
    (h : v ∈ (Transcript.ofInquiries (t.agenda c nullable place level value)).found) :
    LabelSpans label v.field := by
  rw [Transcript.found_ofInquiries] at h
  obtain ⟨⟨q, _⟩, hreport, rfl⟩ := List.mem_map.mp h
  obtain ⟨hq, hanswer⟩ := Transcript.mem_reports hreport
  obtain ⟨p, hspans, hput⟩ := spans_of_mem_agenda hq
  obtain ⟨label', hlabel', hlabels⟩ := hspans.labelSpans hlabel
  rwa [hput.field_eq hlabel' hanswer]

end Terrain

end RecordValidation
