import RecordValidation.Proofs.Codes
import RecordValidation.Proofs.Literals
import RecordValidation.Proofs.Nesting

/-!
The index of a violation. It is read off the label, between the last closing bracket and the
opening one before it. In labels only elements of sequences end with a closing bracket, as
long as no name has one in it, so the index read is that of the last element on the way to
where the violation was reported.
-/

namespace RecordValidation

/-- Digits that were written for a number are read as this number, if it is a count. -/
theorem Numeral.toOption_count?_toDigits (n : Nat) :
    (count? (String.ofList (Nat.toDigits 10 n))).toOption =
      (some n).filter (· ≤ greatestCount) := by
  have hvalue : (n : Int) = 1 * Nat.ofDigitChars 10 (Nat.toDigits 10 n) 0 := by
    rw [Nat.ofDigitChars_ten_toDigits, one_mul]
  have hread : read 0 greatestCount (Nat.toDigits 10 n) =
      appendDigits 0 greatestCount 1 0 (Nat.toDigits 10 n) := by
    obtain ⟨c, rest, hdigits⟩ := List.exists_cons_of_ne_nil (Nat.toDigits_ne_nil (b := 10) (n := n))
    have hc : c.isDigit = true := Place.isDigit_toDigits n c (by rw [hdigits]; simp)
    have hplus : c ≠ '+' := by
      rintro rfl
      cases hc
    have hminus : c ≠ '-' := by
      rintro rfl
      cases hc
    rw [hdigits]
    exact read_unsigned hplus hminus rest
  have happend {m : Int} : appendDigits 0 greatestCount 1 0 (Nat.toDigits 10 n) = .ok m ↔
      (∀ c ∈ Nat.toDigits 10 n, c.isDigit = true) ∧
        m = 1 * Nat.ofDigitChars 10 (Nat.toDigits 10 n) 0 ∧ 0 ≤ m ∧ m ≤ greatestCount :=
    appendDigits_zero_eq_ok_iff (.inl rfl) le_rfl (by omega)
  rw [count?, String.toList_ofList, hread]
  by_cases hn : n ≤ greatestCount
  · have hok := happend.mpr ⟨Place.isDigit_toDigits n, hvalue, by omega, by omega⟩
    rw [hok]
    simp [Except.map, Except.toOption, Option.filter_some, hn]
  · cases hresult : appendDigits 0 greatestCount 1 0 (Nat.toDigits 10 n) with
    | error e => simp [Except.map, Except.toOption, Option.filter_some, hn]
    | ok m =>
      obtain ⟨-, hm, -, hle⟩ := happend.mp hresult
      rw [← hvalue] at hm
      omega

namespace Violation

/-- What comes after the last closing bracket does not matter. -/
theorem lastBrackets?_append {rest : List Char} (h : ']' ∉ rest) (path : List Char) :
    lastBrackets? (path ++ rest) = lastBrackets? path := by
  have hskip : (path ++ rest).reverse.dropWhile (· ≠ ']') =
      path.reverse.dropWhile (· ≠ ']') := by
    rw [List.reverse_append, List.dropWhile_append_of_pos]
    intro c hc
    have hne : c ≠ ']' := fun heq => h (List.mem_reverse.mp (heq ▸ hc))
    simpa using hne
  unfold lastBrackets?
  rw [hskip]

theorem lastBrackets?_of_not_mem {path : List Char} (h : ']' ∉ path) :
    lastBrackets? path = none := lastBrackets?_append h []

theorem lastBrackets?_brackets {digits : List Char} (h : '[' ∉ digits) (path : List Char) :
    lastBrackets? (path ++ '[' :: (digits ++ [']'])) = some digits := by
  have hreverse : (path ++ '[' :: (digits ++ [']'])).reverse =
      ']' :: (digits.reverse ++ '[' :: path.reverse) := by simp
  have hdigits : ∀ c ∈ digits.reverse, decide (c ≠ '[') = true := by
    intro c hc
    have hne : c ≠ '[' := fun heq => h (List.mem_reverse.mp (heq ▸ hc))
    simpa using hne
  have htake : (digits.reverse ++ '[' :: path.reverse).takeWhile (· ≠ '[') = digits.reverse := by
    rw [List.takeWhile_append_of_pos hdigits]
    simp
  unfold lastBrackets?
  rw [hreverse]
  simp only [ne_eq, not_true_eq_false, decide_false, Bool.false_eq_true, not_false_eq_true,
    List.dropWhile_cons_of_neg]
  rw [if_pos (by simp), htake, List.reverse_reverse]

end Violation

namespace Place

/-- The index of the last element on the way to a place. -/
def lastIndex? : Place → Option Nat
  | .root | .labelled _ => none
  | .field outer _ => outer.lastIndex?
  | .element _ index => some index

/-- The places with no closing bracket in the names on the way to them. -/
def Legible : Place → Prop
  | .root => True
  | .labelled label => ']' ∉ label.toList
  | .field outer name => outer.Legible ∧ ']' ∉ name.toList
  | .element outer _ => outer.Legible

theorem opening_not_mem_toDigits (index : Nat) : '[' ∉ Nat.toDigits 10 index := by
  intro h
  have hdigit := isDigit_toDigits index '[' h
  cases hdigit

/-- The last brackets in the label of a place are around the index of the last element. -/
theorem Legible.lastBrackets?_label {place : Place} (h : place.Legible) :
    Violation.lastBrackets? place.label.toList = place.lastIndex?.map (Nat.toDigits 10) := by
  induction place with
  | root => rfl
  | labelled label => exact Violation.lastBrackets?_of_not_mem h
  | field outer name ih =>
    obtain ⟨houter, hname⟩ := h
    have hfield := path?_field outer name
    rw [label_of_path? hfield]
    cases hpath : outer.path? with
    | none =>
      cases path?_eq_none_iff.mp hpath
      exact Violation.lastBrackets?_of_not_mem hname
    | some label =>
      have hrest : ']' ∉ '.' :: name.toList := by
        rw [List.mem_cons, not_or]
        exact ⟨by decide, hname⟩
      rw [LabelSpans.toList_fieldLabel, Violation.lastBrackets?_append hrest,
        ← label_of_path? hpath]
      exact ih houter
  | element outer index ih =>
    have helement : (outer.element index).path? =
        some (Scope.elementLabel (outer.path?.getD "") index) := rfl
    rw [label_of_path? helement, LabelSpans.toList_elementLabel, indexChars]
    exact Violation.lastBrackets?_brackets (opening_not_mem_toDigits index) _

theorem Legible.index?_eq {place : Place} (h : place.Legible) {v : Violation}
    (hfield : v.field = place.label) :
    v.index? = place.lastIndex?.filter (· ≤ Numeral.greatestCount) := by
  show (Violation.lastBrackets? v.field.toList).bind
    (fun digits => (Numeral.count? (String.ofList digits)).toOption) = _
  rw [hfield, h.lastBrackets?_label]
  cases place.lastIndex? with
  | none => rfl
  | some index => exact Numeral.toOption_count?_toDigits index

end Place

/-- What an inquiry is about: the value that a check looks at, or the record that a rule for
whole records is applied to. -/
def Inquiry.subject? : Inquiry → Option Value
  | .record _ tag fields _ _ => some (.record tag fields)
  | q => q.value?

/-- What a stage looks at. -/
def Stage.subject : Stage → Value
  | .value _ _ _ _ v => v
  | .record _ _ tag _ fields => .record tag fields

/-- Inspectors with no closing bracket in the names of their record types, nor in those of
the fields of these. An opening bracket alone does no harm. -/
structure Inspector.LegibleNames (i : Inspector) : Prop where
  record : ∀ {tag b}, i.blueprints.find? tag = some b → ']' ∉ b.name.toList
  field : ∀ {tag names}, i.fieldNames? tag = some names → ∀ name ∈ names, ']' ∉ name.toList

namespace Inspector

variable {i : Inspector} {now : Instant} {r : Record} {address : List Nat} {place : Place}
  {w v : Value} {index : Nat}

theorem position?_element (h : i.position? r address = some (place, w)) {items : List Value}
    (hbare : w.bare = .sequence items) (hitem : items[index]? = some v) :
    i.position? r (index :: address) = some (place.element index, v) := by
  simp [position?, child?, h, hbare, hitem]

theorem position?_field (h : i.position? r address = some (place, w)) {tag : TypeTag}
    {fields : List Value} (hbare : w.bare = .record tag fields) {names : List String}
    (hnames : i.fieldNames? tag = some names) {name : String}
    (hname : names[index]? = some name) (hv : fields[index]? = some v) :
    i.position? r (index :: address) = some (place.field name, v) := by
  have hzip : (names.zip fields)[index]? = some (name, v) :=
    List.getElem?_zip_eq_some.mpr ⟨hname, hv⟩
  simp [position?, child?, h, hbare, hnames, hzip]

end Inspector

/-- A stage that looks at what stands at a position in the record, on a way that can be read
off its label. -/
def Stage.Positioned (i : Inspector) (r : Record) (s : Stage) : Prop :=
  s.place.Legible ∧ ∃ address w, i.position? r address = some (s.place, w) ∧
    s.subject ∈ w.layers

namespace Stage

variable {i : Inspector} {now : Instant} {r : Record}

theorem Positioned.leads {s s' : Stage} (h : s.Positioned i r) (hfounded : s.Founded i)
    (hnames : i.LegibleNames) (hleads : (i.terrain now).Leads s s') : s'.Positioned i r := by
  obtain ⟨hlegible, address, w, hposition, hsubject⟩ := h
  cases hleads with
  | just hne nullable place level inner =>
    exact ⟨hlegible, address, w, hposition, Value.mem_layers_of_just hsubject⟩
  | @element head c nullable place level items index item hitem =>
    have hbare : w.bare = .sequence items := (Value.bare_of_mem_layers hsubject).symm
    have hposition' := Inspector.position?_element hposition hbare hitem
    exact ⟨hlegible, _, item, hposition', item.mem_layers_self⟩
  | enter head nullable place fields hb hlevel =>
    exact ⟨hlegible, address, w, hposition, hsubject⟩
  | @field b place tag level fields index plan v hplan hv howner =>
    have hbare : w.bare = .record tag fields := (Value.bare_of_mem_layers hsubject).symm
    have hb : i.blueprints.find? tag = some b := hfounded
    have hfields : i.fieldNames? tag = some b.fieldNames := by
      rw [Inspector.fieldNames?, hb, Option.map_some]
    have hname : b.fieldNames[index]? = some plan.name := by
      rw [Blueprint.fieldNames, List.getElem?_map, hplan, Option.map_some]
    have hclosing := hnames.field hfields plan.name (List.mem_of_getElem? hname)
    have hposition' := Inspector.position?_field hposition hbare hfields hname hv
    exact ⟨⟨hlegible, hclosing⟩, _, v, hposition', v.mem_layers_self⟩

theorem positioned_of_reaches {s : Stage} (hnames : i.LegibleNames) (h : i.Reaches now r s) :
    s.Positioned i r := by
  obtain ⟨b, hb, hdepth, hreach⟩ := h
  induction hreach with
  | refl => exact ⟨trivial, [], _, rfl, Value.mem_layers_self _⟩
  | step hreach hleads ih =>
    have hfounded := founded_of_reaches ⟨b, hb, hdepth, hreach⟩
    exact ih.leads hfounded hnames hleads

end Stage

namespace Inspector

variable {i : Inspector} {now : Instant} {r : Record}

/-- What a stage reports itself is reported at its place, about what it looks at, under the
label of the place. Only the record itself has the name of its type for a label. -/
theorem reported_of_own {s : Stage} {q : Inquiry} {v : Violation} (hfounded : s.Founded i)
    (hown : q ∈ s.own (i.terrain now)) (hanswer : q.answer = .ok (some v)) :
    q.place = s.place ∧ (∃ subject ∈ s.subject.layers, q.subject? = some subject) ∧
      (v.field = s.place.label ∨
        s.place = .root ∧ ∃ tag b, i.blueprints.find? tag = some b ∧ v.field = b.name) := by
  cases s with
  | value c nullable place level w =>
    have hprompts := prompts_own w.mem_layers_self hfounded nullable level q hown
    have hvalue : ∃ value, q.value? = some value ∧ q.subject? = some value := by
      cases hprompts with
      | absent | builtin | custom => exact ⟨_, rfl, rfl⟩
      | mismatch | unregistered | tooDeep => cases hanswer
    obtain ⟨value, hvalue, hsubject⟩ := hvalue
    obtain ⟨hplace, hmem, hfield, -⟩ := hprompts.apt value v hvalue hanswer
    exact ⟨hplace, ⟨value, hmem, hsubject⟩, .inl hfield⟩
  | record b place tag level fields =>
    rcases List.mem_append.mp hown with hown | hown
    · obtain ⟨_, _, _, -, -, -, -, rfl⟩ := Stage.mem_foreigners_iff.mp hown
      cases hanswer
    · obtain ⟨rule, -, rfl⟩ := List.mem_map.mp hown
      refine ⟨rfl, ⟨_, Value.mem_layers_self _, rfl⟩, ?_⟩
      have hfield : v.field = place.path?.getD b.name := by
        rw [Inquiry.answer] at hanswer
        split at hanswer <;> cases hanswer
        rfl
      cases hpath : place.path? with
      | none =>
        rw [hpath] at hfield
        exact .inr ⟨Place.path?_eq_none_iff.mp hpath, tag, b, hfounded, hfield⟩
      | some label =>
        rw [hpath, Option.getD_some, ← Place.label_of_path? hpath] at hfield
        exact .inl hfield

/-- The index of a violation is the index of the last element on the way from the record to
the position where the violation was reported, and there is none if there is no element on
this way. This holds as far as indices can be counted, for all that is reported of a record,
if there is no closing bracket in the names of types and fields. -/
theorem index_of_last_element (i : Inspector) (now : Instant) (r : Record)
    (hnames : i.LegibleNames) :
    let reports := Transcript.reports ((i.terrain now).root r.tag 0 r.fields)
    (∀ vs, i.violations now r = .ok vs → vs.items = reports.map (·.2)) ∧
    (∀ v, i.violation? now r = .ok (some v) → ∃ q, (q, v) ∈ reports) ∧
    ∀ q v, (q, v) ∈ reports →
      (∃ address w subject, i.position? r address = some (q.place, w) ∧
        q.subject? = some subject ∧ subject ∈ w.layers) ∧
      v.index? = q.place.lastIndex?.filter (· ≤ Numeral.greatestCount) := by
  intro reports
  refine ⟨fun vs hvs => reports_of_violations hvs, ?_, ?_⟩
  · intro v hv
    obtain ⟨q, rest, hreports⟩ := reports_of_violation? hv
    exact ⟨q, by rw [show reports = (q, v) :: rest from hreports]; exact List.mem_cons_self⟩
  · intro q v hreport
    obtain ⟨hq, hanswer⟩ := Transcript.mem_reports hreport
    rcases mem_root_iff.mp hq with hentry | ⟨s, hreach, hown⟩
    · rcases refusal_of_mem_entry hentry with ⟨-, rfl⟩ | rfl <;> cases hanswer
    have hfounded := Stage.founded_of_reaches hreach
    obtain ⟨hlegible, address, w, hposition, hlayer⟩ :=
      Stage.positioned_of_reaches hnames hreach
    obtain ⟨hplace, ⟨subject, hmem, hsubject⟩, hfield⟩ := reported_of_own hfounded hown hanswer
    rw [hplace]
    refine ⟨⟨address, w, subject, hposition, hsubject, Value.mem_layers_trans hmem hlayer⟩, ?_⟩
    rcases hfield with hfield | ⟨hroot, tag, b, hb, hfield⟩
    · exact hlegible.index?_eq hfield
    · have hlabelled : (Place.labelled b.name).Legible := hnames.record hb
      rw [hroot]
      exact hlabelled.index?_eq hfield

theorem legibleNames_of_empty (h : i.blueprints = .empty) : i.LegibleNames := by
  have hnone : ∀ tag, i.blueprints.find? tag = none := by
    intro tag
    rw [h]
    rfl
  constructor
  · intro tag b hb
    rw [hnone] at hb
    cases hb
  · intro tag names hfields
    rw [fieldNames?, hnone] at hfields
    cases hfields

/-- Names stay legible when a type with legible names is registered. -/
theorem LegibleNames.register {i' : Inspector} {t : RecordType} (hnames : i.LegibleNames)
    (h : i.register t = .ok i') (htype : ']' ∉ t.tag.name.toList)
    (hfields : ∀ name ∈ t.fields.map FieldDecl.name, ']' ∉ name.toList) : i'.LegibleNames := by
  obtain ⟨-, -, rfl⟩ := register_eq_ok_iff.mp h
  let e : Enrolment := ⟨t, i.lexicon, []⟩
  constructor
  · intro tag b hb
    rw [Roster.find?_insert] at hb
    split at hb
    · cases hb
      exact htype
    · exact hnames.record hb
  · intro tag names hnames'
    rw [fieldNames?, Roster.find?_insert] at hnames'
    split at hnames'
    · rw [Option.map_some, e.fieldNames_blueprint] at hnames'
      cases hnames'
      exact hfields
    · exact hnames.field hnames'

/-- The second tag of the record is missing, and its index is read off the label. -/
theorem index_of_last_element_user :
    ∃ i q address w, register {} .user = .ok i ∧
      (q, .required "tags[1]") ∈
        Transcript.reports ((i.terrain ⟨0⟩).root Record.user.tag 0 Record.user.fields) ∧
      i.position? .user address = some (q.place, w) ∧ q.place.lastIndex? = some 1 ∧
      (Violation.required "tags[1]").index? = some 1 := by
  obtain ⟨i, hregister⟩ : ∃ i, register {} .user = .ok i :=
    (isSome_toOption _).mp (by cbv)
  have hnames : i.LegibleNames := by
    refine (legibleNames_of_empty rfl).register hregister (by decide) ?_
    intro name hname
    simp only [RecordType.user, List.map_cons, FieldDecl.name, List.map_nil, List.mem_cons,
      List.not_mem_nil, or_false] at hname
    rcases hname with rfl | rfl | rfl | rfl <;> decide
  obtain ⟨vs, hvs, hreported⟩ : ∃ vs, i.violations ⟨0⟩ .user = .ok vs ∧
      Violation.required "tags[1]" ∈ vs.items := by
    obtain ⟨-, -, rfl⟩ := register_eq_ok_iff.mp hregister
    refine ⟨⟨[⟨"name", "name can not be longer than 3 characters", "max"⟩,
      ⟨"tags", "tags must have at least 3 elements", "min"⟩, .required "tags[1]",
      .required "boss.name", ⟨"boss.tags", "boss.tags must have at least 3 elements", "min"⟩,
      .required "boss.boss"]⟩, by cbv, by simp⟩
  obtain ⟨hitems, -, hindex⟩ := index_of_last_element i ⟨0⟩ .user hnames
  rw [hitems vs hvs] at hreported
  obtain ⟨⟨q, v⟩, hreport, hv⟩ := List.mem_map.mp hreported
  cases hv
  obtain ⟨⟨address, w, -, hposition, -⟩, hlast⟩ := hindex q (.required "tags[1]") hreport
  have hread : (Violation.required "tags[1]").index? = some 1 := by cbv
  rw [hread] at hlast
  exact ⟨i, q, address, w, hregister, hreport, hposition,
    (Option.filter_eq_some_iff.mp hlast.symm).1, hread⟩

end Inspector

end RecordValidation
