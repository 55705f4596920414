import RecordValidation.Proofs.Path
import RecordValidation.Proofs.Reach
import RecordValidation.Proofs.Soundness

/-!
Positions in a record. The label of a violation is read back as the names of fields and
the indices of elements, and to follow these from the record is to arrive at the value
that the violation is about. Different positions have different labels.
-/

namespace RecordValidation

namespace Value

/-- A value, and the values that its optional layers hold. -/
def layers : Value → List Value
  | .just inner => .just inner :: inner.layers
  | v => [v]

/-- The value within all optional layers. -/
def bare : Value → Value
  | .just inner => inner.bare
  | v => v

theorem mem_layers_self (v : Value) : v ∈ v.layers := by
  cases v <;> exact List.mem_cons_self

theorem bare_of_mem_layers {v : Value} : {w : Value} → v ∈ w.layers → v.bare = w.bare
  | .just inner, h => by
    rcases List.mem_cons.mp h with rfl | h
    · rfl
    · exact bare_of_mem_layers (w := inner) h
  | .text _, h | .integer _, h | .float _, h | .time _, h | .null, h | .sequence _, h
  | .record _ _, h | .inert, h => by rw [List.mem_singleton.mp h]

theorem mem_layers_trans {u v : Value} (hu : u ∈ v.layers) :
    {w : Value} → v ∈ w.layers → u ∈ w.layers
  | .just inner, hv => by
    rcases List.mem_cons.mp hv with rfl | hv
    · exact hu
    · exact List.mem_cons_of_mem _ (mem_layers_trans hu hv)
  | .text _, hv | .integer _, hv | .float _, hv | .time _, hv | .null, hv | .sequence _, hv
  | .record _ _, hv | .inert, hv => by
    cases List.mem_singleton.mp hv
    exact hu

theorem mem_layers_of_just {inner w : Value} (h : .just inner ∈ w.layers) : inner ∈ w.layers := by
  have hinner : inner ∈ (Value.just inner).layers :=
    List.mem_cons_of_mem _ inner.mem_layers_self
  exact mem_layers_trans hinner h

theorem mem_layers_of_present? {present : Value} :
    {nullable : Bool} → {v : Value} → v.present? nullable = some present → present ∈ v.layers
  | _, .just inner, h => List.mem_cons_of_mem _ (mem_layers_of_present? (v := inner) h)
  | _, .text _, h | _, .integer _, h | _, .float _, h | _, .time _, h | _, .sequence _, h
  | _, .record _ _, h | _, .inert, h => by
    simp only [present?] at h
    split at h
    · cases h
    · cases h
      exact mem_layers_self _

end Value

/-- The place around a place. -/
def Place.outer : Place → Place
  | .field outer _ | .element outer _ => outer
  | place => place

namespace Inquiry

/-- Where an inquiry is put. -/
def place : Inquiry → Place
  | .required place _ | .builtin place _ _ | .custom place _ _ _ | .record place _ _ _ _
  | .refusal place _ => place

/-- The value that a check of a field is about. -/
def value? : Inquiry → Option Value
  | .required _ value | .builtin _ value _ | .custom _ value _ _ => some value
  | .record _ _ _ _ _ | .refusal _ _ => none

theorem custom_answer_eq_some {place : Place} {value : Value} {station : Station} {r : NamedRule}
    {v : Violation} (h : answer (.custom place value station r) = .ok (some v)) :
    ∃ message, r.rule place.label value = .ok (some message) ∧
      v = ⟨place.label, message, r.name⟩ := by
  rw [answer] at h
  cases hrule : r.rule place.label value with
  | error source =>
    rw [hrule] at h
    cases h
  | ok found =>
    rw [hrule] at h
    cases found with
    | none => cases h
    | some message =>
      cases h
      exact ⟨message, rfl, rfl⟩

end Inquiry

/-- The violations that a value gives cause for under a label: it is absent, it fails a
built-in check by its own measure, or a custom rule has a message for it. -/
inductive Inspector.Incurs (i : Inspector) (now : Instant) (label : String) :
    Value → Violation → Prop
  | absent {nullable : Bool} {value : Value} (h : value.present? nullable = none) :
      i.Incurs now label value (.required label)
  | builtin {β α : Type} {d : Dialect β α} {g : Gauge β α} {value : Value} {v : Violation}
      (hg : g.Measures d now value) (seg : Segment β α) (h : v ∈ seg.failures g label) :
      i.Incurs now label value v
  | custom {station : Station} {r : NamedRule} {value : Value} {message : String}
      (hbinds : i.Binds station r) (h : r.rule label value = .ok (some message)) :
      i.Incurs now label value ⟨label, message, r.name⟩

theorem Segment.field_of_mem_failures {β α : Type} {seg : Segment β α} {g : Gauge β α}
    {label : String} {v : Violation} (h : v ∈ seg.failures g label) : v.field = label := by
  simp only [failures, List.mem_append, Option.mem_toList, Option.map_eq_some_iff] at h
  rcases h with ((⟨_, -, rfl⟩ | ⟨_, -, rfl⟩) | ⟨_, -, rfl⟩) | ⟨_, -, rfl⟩ <;> rfl

/-- An inquiry that reports nothing but violations at a place, for which the value there
gives cause. -/
def Inspector.Apt (i : Inspector) (now : Instant) (place : Place) (w : Value) (q : Inquiry) :
    Prop :=
  ∀ value v, q.value? = some value → q.answer = .ok (some v) →
    q.place = place ∧ value ∈ w.layers ∧ v.field = place.label ∧
      i.Incurs now place.label value v

/-- The inquiries that a value at a place gives cause for itself: it is absent, it fails a
built-in check by its own measure, a custom rule stands at its station, or the survey can
not go on with it. -/
inductive Inspector.Prompts (i : Inspector) (now : Instant) (place : Place) (w : Value) :
    Inquiry → Prop
  | absent {nullable : Bool} {value : Value} (hvalue : value ∈ w.layers)
      (h : value.present? nullable = none) : i.Prompts now place w (.required place value)
  | builtin {β α : Type} {d : Dialect β α} {g : Gauge β α} {value : Value} {v : Violation}
      (hvalue : value ∈ w.layers) (hg : g.Measures d now value) (seg : Segment β α)
      (h : v ∈ seg.failures g place.label) : i.Prompts now place w (.builtin place value v)
  | custom {value : Value} {station : Station} {r : NamedRule} (hvalue : value ∈ w.layers)
      (hbinds : i.Binds station r) : i.Prompts now place w (.custom place value station r)
  | mismatch (expected found : Kind) :
      i.Prompts now place w (.refusal place (.mismatch place.label expected found))
  | unregistered {tag : TypeTag} (h : i.blueprints.find? tag = none) :
      i.Prompts now place w (.refusal place (.notRegistered tag.name))
  | tooDeep (label : String) :
      i.Prompts now place w (.refusal place (.tooDeep label i.settings.maxDepth))

namespace Inspector

open Inquiry

variable {i : Inspector} {now : Instant} {place : Place} {value w : Value}

theorem prompts_absence (hvalue : value ∈ w.layers) {nullable : Bool}
    (habsent : value.present? nullable = none) (required : Bool) :
    ∀ q ∈ ofAbsence required place value, i.Prompts now place w q := by
  intro q hq
  cases required with
  | false => cases hq
  | true =>
    cases List.mem_singleton.mp hq
    exact .absent hvalue habsent

theorem prompts_mismatch (expected : Kind) (found : Value) :
    ∀ q ∈ ofMismatch place expected found, i.Prompts now place w q := by
  intro q hq
  cases List.mem_singleton.mp hq
  exact .mismatch expected found.kind

theorem prompts_rules (hvalue : value ∈ w.layers) {station : Station} {rules : List NamedRule}
    (hbinds : ∀ r ∈ rules, i.Binds station r) :
    ∀ q ∈ ofRules place value station rules, i.Prompts now place w q := by
  intro q hq
  obtain ⟨r, hr, rfl⟩ := List.mem_map.mp hq
  exact .custom hvalue (hbinds r hr)

theorem prompts_segment {β α : Type} {d : Dialect β α} {g : Gauge β α}
    (hg : g.Measures d now value) (hvalue : value ∈ w.layers) {station : Station}
    {seg : Segment β α} (hbinds : ∀ r ∈ seg.custom, i.Binds station r) :
    ∀ q ∈ ofSegment station seg g place value, i.Prompts now place w q := by
  intro q hq
  rcases List.mem_append.mp hq with hq | hq
  · obtain ⟨v, hv, rfl⟩ := List.mem_map.mp hq
    exact .builtin hvalue hg seg hv
  · exact prompts_rules hvalue hbinds q hq

theorem prompts_scalar {target : ScalarConstraint} (hvalue : value ∈ w.layers)
    (hbinds : ∀ r ∈ target.custom, i.Binds target.station r) :
    ∀ q ∈ (i.terrain now).scalar place target value, i.Prompts now place w q := by
  cases target <;> cases value <;>
    first
    | exact prompts_segment (Gauge.text_measures now _) hvalue hbinds
    | exact prompts_segment (Gauge.whole_measures now _) hvalue hbinds
    | exact prompts_segment (Gauge.float_measures now _) hvalue hbinds
    | exact prompts_segment (Gauge.time_measures now _) hvalue hbinds
    | exact prompts_mismatch _ _

theorem prompts_ifPresent {target : ScalarConstraint} (hvalue : value ∈ w.layers)
    (hbinds : ∀ r ∈ target.custom, i.Binds target.station r) (nullable : Bool) :
    ∀ q ∈ (i.terrain now).ifPresent place target nullable value, i.Prompts now place w q := by
  unfold Terrain.ifPresent
  cases hpresent : value.present? nullable with
  | none => exact prompts_absence hvalue hpresent target.required
  | some present =>
    have hlayer := Value.mem_layers_of_present? hpresent
    exact prompts_scalar (Value.mem_layers_trans hlayer hvalue) hbinds

theorem prompts_pointer {head : Segment Empty Empty} {target : ScalarConstraint}
    (hvalue : value ∈ w.layers) (hhead : ∀ r ∈ head.custom, i.Binds .pointer r)
    (htarget : ∀ r ∈ target.custom, i.Binds target.station r) :
    ∀ q ∈ (i.terrain now).pointer place head target value, i.Prompts now place w q := by
  intro q hq
  cases value with
  | null =>
    have habsent : Value.null.present? true = none := rfl
    exact prompts_absence hvalue habsent head.required q hq
  | just pointee =>
    rcases List.mem_append.mp hq with hq | hq
    · exact prompts_rules hvalue hhead q hq
    · exact prompts_ifPresent (Value.mem_layers_of_just hvalue) htarget false q hq
  | _ =>
    rcases List.mem_append.mp hq with hq | hq
    · exact prompts_rules hvalue hhead q hq
    · exact prompts_ifPresent hvalue htarget false q hq

theorem prompts_plain {c : Constraint} (hvalue : value ∈ w.layers)
    (hbinds : ∀ x ∈ c.bindings, i.Binds x.1 x.2) (nullable : Bool) :
    ∀ q ∈ (i.terrain now).plain nullable place value c, i.Prompts now place w q := by
  cases c with
  | unchecked => exact nofun
  | scalar target =>
    simp only [Constraint.bindings, List.forall_mem_map] at hbinds
    exact prompts_ifPresent hvalue hbinds nullable
  | pointer head target =>
    simp only [Constraint.bindings, List.forall_mem_append, List.forall_mem_map] at hbinds
    exact prompts_pointer hvalue hbinds.1 hbinds.2
  | sequence head element =>
    unfold Terrain.plain
    cases hpresent : value.present? nullable with
    | none => exact prompts_absence hvalue hpresent head.required
    | some present => exact prompts_mismatch .sequence present
  | record head =>
    unfold Terrain.plain
    cases hpresent : value.present? nullable with
    | none => exact prompts_absence hvalue hpresent head.required
    | some present => exact prompts_mismatch .record present

/-- What is put on the way into a record itself is a refusal. -/
theorem refusal_of_mem_entry {t : Terrain} {tag : TypeTag} {level : Nat} {q : Inquiry}
    (h : q ∈ t.entry place tag level fun _ => []) :
    (t.blueprints.find? tag = none ∧ q = .refusal place (.notRegistered tag.name)) ∨
      q = .refusal place (.tooDeep (place.path?.getD tag.name) t.limit) := by
  unfold Terrain.entry at h
  split at h
  · next hnew => exact .inl ⟨hnew, List.mem_singleton.mp h⟩
  · split at h
    · exact .inr (List.mem_singleton.mp h)
    · cases h

theorem prompts_entry {tag : TypeTag} {level : Nat} :
    ∀ q ∈ (i.terrain now).entry place tag level (fun _ => []), i.Prompts now place w q := by
  intro q hq
  rcases refusal_of_mem_entry hq with ⟨hnew, rfl⟩ | rfl
  · exact .unregistered hnew
  · exact .tooDeep _

/-- All inquiries that a stage puts into a value itself are prompted by the value. -/
theorem prompts_own {c : Constraint} (hvalue : value ∈ w.layers)
    (hbinds : ∀ x ∈ c.bindings, i.Binds x.1 x.2) (nullable : Bool) (level : Nat) :
    ∀ q ∈ (Stage.value c nullable place level value).own (i.terrain now),
      i.Prompts now place w q := by
  intro q hq
  cases c with
  | pointer head target =>
    simp only [Constraint.bindings, List.forall_mem_append, List.forall_mem_map] at hbinds
    exact prompts_pointer hvalue hbinds.1 hbinds.2 q hq
  | sequence head element =>
    cases value with
    | just inner => cases hq
    | sequence items =>
      simp only [Constraint.bindings, List.forall_mem_append, List.forall_mem_map] at hbinds
      exact prompts_segment (Gauge.sequence_measures now items) hvalue hbinds.1 q hq
    | _ => exact prompts_plain hvalue hbinds nullable q hq
  | record head =>
    cases value with
    | just inner => cases hq
    | record tag fields =>
      simp only [Constraint.bindings, List.forall_mem_map] at hbinds
      rcases List.mem_append.mp hq with hq | hq
      · exact prompts_rules hvalue hbinds q hq
      · exact prompts_entry q hq
    | _ => exact prompts_plain hvalue hbinds nullable q hq
  | _ =>
    cases value with
    | just inner => cases hq
    | _ => exact prompts_plain hvalue hbinds nullable q hq

theorem Prompts.apt {q : Inquiry} (h : i.Prompts now place w q) : i.Apt now place w q := by
  intro value v hvalue hanswer
  cases h with
  | absent hmem habsent =>
    cases hvalue
    cases hanswer
    exact ⟨rfl, hmem, rfl, .absent habsent⟩
  | builtin hmem hg seg hv =>
    cases hvalue
    cases hanswer
    exact ⟨rfl, hmem, Segment.field_of_mem_failures hv, .builtin hg seg hv⟩
  | custom hmem hbinds =>
    cases hvalue
    obtain ⟨message, hrule, rfl⟩ := custom_answer_eq_some hanswer
    exact ⟨rfl, hmem, rfl, .custom hbinds hrule⟩
  | mismatch expected found => cases hvalue
  | unregistered hnew => cases hvalue
  | tooDeep label => cases hvalue

/-- Inspectors in whose types no field has a name with dots or brackets in it, and no two
fields have the same name. -/
structure PlainNames (i : Inspector) : Prop where
  plain : ∀ {tag names}, i.fieldNames? tag = some names → ∀ name ∈ names, PlainName name
  nodup : ∀ {tag names}, i.fieldNames? tag = some names → names.Nodup

/-- The value at the end of a path from a record, by the names of the fields that its
type declares. Optional layers on the way make no difference. -/
def follow (i : Inspector) (r : Record) : Place → Option Value
  | .root => some (.record r.tag r.fields)
  | .labelled _ => none
  | .field outer name => do
    match (← i.follow r outer).bare with
    | .record tag fields => Roster.lookup name ((← i.fieldNames? tag).zip fields)
    | _ => none
  | .element outer index => do
    match (← i.follow r outer).bare with
    | .sequence items => items[index]?
    | _ => none

theorem lookup_zip {names : List String} (hnodup : names.Nodup) {values : List Value}
    {index : Nat} {name : String} {v : Value} (hname : names[index]? = some name)
    (hv : values[index]? = some v) : Roster.lookup name (names.zip values) = some v := by
  induction names generalizing values index with
  | nil => cases hname
  | cons first rest ih =>
    obtain ⟨hfirst, hrest⟩ := List.nodup_cons.mp hnodup
    cases values with
    | nil => cases hv
    | cons v' values =>
      rw [List.zip_cons_cons, Roster.lookup]
      cases index with
      | zero =>
        cases hname
        cases hv
        exact if_pos rfl
      | succ index =>
        have hne : first ≠ name := by
          rintro rfl
          exact hfirst (List.mem_of_getElem? hname)
        rw [if_neg hne]
        exact ih hrest hname hv

theorem follow_field {r : Record} {outer : Place} {tag : TypeTag} {fields : List Value}
    {names : List String} (houter : i.follow r outer = some w)
    (hbare : w.bare = .record tag fields) (hnames : i.fieldNames? tag = some names)
    (name : String) :
    i.follow r (outer.field name) = Roster.lookup name (names.zip fields) := by
  rw [follow, houter]
  dsimp only [Option.bind_eq_bind, Option.bind_some]
  rw [hbare]
  dsimp only
  rw [hnames, Option.bind_some]

theorem follow_element {r : Record} {outer : Place} {items : List Value}
    (houter : i.follow r outer = some w) (hbare : w.bare = .sequence items) (index : Nat) :
    i.follow r (outer.element index) = items[index]? := by
  rw [follow, houter]
  dsimp only [Option.bind_eq_bind, Option.bind_some]
  rw [hbare]

end Inspector

/-- A stage of a survey that looks at what stands at its place in the record. -/
def Stage.Located (i : Inspector) (r : Record) : Stage → Prop
  | .value c _ place _ v =>
    place.Plain ∧ place ≠ .root ∧ (∀ x ∈ c.bindings, i.Binds x.1 x.2) ∧
      ∃ w, i.follow r place = some w ∧ v ∈ w.layers
  | .record b place tag _ fields =>
    place.Plain ∧ i.blueprints.find? tag = some b ∧
      ∃ w, i.follow r place = some w ∧ w.bare = .record tag fields

namespace Stage

variable {i : Inspector} {now : Instant} {r : Record}

theorem Located.leads {s s' : Stage} (h : s.Located i r) (hnames : i.PlainNames)
    (hleads : (i.terrain now).Leads s s') : s'.Located i r := by
  cases hleads with
  | just hne nullable place level inner =>
    obtain ⟨hplain, hroot, hbinds, w, hw, hv⟩ := h
    exact ⟨hplain, hroot, hbinds, w, hw, Value.mem_layers_of_just hv⟩
  | element head c nullable place level hitem =>
    obtain ⟨hplain, hroot, hbinds, w, hw, hv⟩ := h
    simp only [Constraint.bindings, List.forall_mem_append] at hbinds
    have hbare : w.bare = .sequence _ := (Value.bare_of_mem_layers hv).symm
    refine ⟨.element hplain hroot _, ?_, hbinds.2, _, ?_, Value.mem_layers_self _⟩
    · intro h
      cases h
    · rw [Inspector.follow_element hw hbare, hitem]
  | enter head nullable place fields hb hlevel =>
    obtain ⟨hplain, -, -, w, hw, hv⟩ := h
    exact ⟨hplain, hb, w, hw, (Value.bare_of_mem_layers hv).symm⟩
  | @field b place tag level fields index plan v hplan hv howner =>
    obtain ⟨hplain, hb, w, hw, hbare⟩ := h
    have hfields : i.fieldNames? tag = some b.fieldNames := by
      rw [Inspector.fieldNames?, hb, Option.map_some]
    have hname : b.fieldNames[index]? = some plan.name := by
      rw [Blueprint.fieldNames, List.getElem?_map, hplan, Option.map_some]
    have hmem : plan.name ∈ b.fieldNames := List.mem_of_getElem? hname
    refine ⟨.field hplain (hnames.plain hfields plan.name hmem), ?_, ?_, v, ?_,
      Value.mem_layers_self v⟩
    · intro h
      cases h
    · intro x hx
      exact ⟨tag, b, hb, plan, List.mem_of_getElem? hplan, hx⟩
    · rw [Inspector.follow_field hw hbare hfields]
      exact Inspector.lookup_zip (hnames.nodup hfields) hname hv

theorem located_of_reaches {s : Stage} (hnames : i.PlainNames) (h : i.Reaches now r s) :
    s.Located i r := by
  obtain ⟨b, hb, -, hreach⟩ := h
  induction hreach with
  | refl => exact ⟨.root, hb, _, rfl, rfl⟩
  | step _ hleads ih => exact ih.leads hnames hleads

end Stage

namespace Inspector

variable {i : Inspector} {now : Instant} {r : Record}

/-- What a value holds as its field or element of a number, and the place where it is. -/
def child? (i : Inspector) (x : Place × Value) (index : Nat) : Option (Place × Value) :=
  match x.2.bare with
  | .record tag fields => do
    let (name, v) ← ((← i.fieldNames? tag).zip fields)[index]?
    return (x.1.field name, v)
  | .sequence items => do return (x.1.element index, ← items[index]?)
  | _ => none

/-- The position in a record that is reached by the numbers of fields and elements, of
which the last one comes first. -/
def position? (i : Inspector) (r : Record) : List Nat → Option (Place × Value)
  | [] => some (.root, .record r.tag r.fields)
  | index :: outer => do i.child? (← i.position? r outer) index

theorem child?_cases {x y : Place × Value} {index : Nat} (h : i.child? x index = some y) :
    (∃ tag fields names name, x.2.bare = .record tag fields ∧
      i.fieldNames? tag = some names ∧ names[index]? = some name ∧
        fields[index]? = some y.2 ∧ y.1 = x.1.field name) ∨
    ∃ items, x.2.bare = .sequence items ∧ items[index]? = some y.2 ∧
      y.1 = x.1.element index := by
  unfold child? at h
  cases hbare : x.2.bare with
  | record tag fields =>
    rw [hbare] at h
    obtain ⟨names, hnames, h⟩ := Option.bind_eq_some_iff.mp h
    obtain ⟨⟨name, v⟩, hzip, h⟩ := Option.bind_eq_some_iff.mp h
    obtain ⟨hname, hv⟩ := List.getElem?_zip_eq_some.mp hzip
    cases h
    exact .inl ⟨tag, fields, names, name, rfl, hnames, hname, hv, rfl⟩
  | sequence items =>
    rw [hbare] at h
    obtain ⟨item, hitem, h⟩ := Option.bind_eq_some_iff.mp h
    cases h
    exact .inr ⟨items, rfl, hitem, rfl⟩
  | _ =>
    rw [hbare] at h
    cases h

/-- What a value holds is at a place of its own within the place of the value. -/
theorem place_of_child? {x y : Place × Value} {index : Nat} (h : i.child? x index = some y) :
    y.1 ≠ .root ∧ y.1.outer = x.1 := by
  rcases child?_cases h with ⟨_, _, _, name, -, -, -, -, hplace⟩ | ⟨_, -, -, hplace⟩ <;>
  · rw [hplace]
    exact ⟨nofun, rfl⟩

theorem index_eq_of_child? (hnames : i.PlainNames) {x y y' : Place × Value} {index index' : Nat}
    (h : i.child? x index = some y) (h' : i.child? x index' = some y') (hplace : y.1 = y'.1) :
    index = index' := by
  rcases child?_cases h with
    ⟨tag, fields, names, name, hbare, hfields, hname, -, hy⟩ | ⟨items, hbare, -, hy⟩
  · rcases child?_cases h' with
      ⟨tag', fields', names', name', hbare', hfields', hname', -, hy'⟩ | ⟨items', hbare', -, hy'⟩
    · rw [hbare] at hbare'
      cases hbare'
      rw [hfields] at hfields'
      cases hfields'
      rw [hy, hy'] at hplace
      cases hplace
      have hlength : index < names.length := (List.getElem?_eq_some_iff.mp hname).1
      exact (List.getElem?_inj hlength (hnames.nodup hfields)).mp (hname.trans hname'.symm)
    · rw [hbare] at hbare'
      cases hbare'
  · rcases child?_cases h' with
      ⟨tag', fields', names', name', hbare', -, -, -, -⟩ | ⟨items', hbare', -, hy'⟩
    · rw [hbare] at hbare'
      cases hbare'
    · rw [hy, hy'] at hplace
      cases hplace
      rfl

/-- The labels of all positions can be read back, and lead to the positions. -/
theorem follow_position? (hnames : i.PlainNames) {address : List Nat} {place : Place}
    {w : Value} (h : i.position? r address = some (place, w)) :
    place.Plain ∧ i.follow r place = some w := by
  induction address generalizing place w with
  | nil =>
    cases h
    exact ⟨.root, rfl⟩
  | cons index address ih =>
    obtain ⟨⟨outer, u⟩, houter, hchild⟩ := Option.bind_eq_some_iff.mp h
    obtain ⟨hplain, hfollow⟩ := ih houter
    rcases child?_cases hchild with
      ⟨tag, fields, names, name, hbare, hfields, hname, hv, hplace⟩ |
      ⟨items, hbare, hitem, hplace⟩
    · cases hplace
      refine ⟨.field hplain (hnames.plain hfields name (List.mem_of_getElem? hname)), ?_⟩
      rw [follow_field hfollow hbare hfields]
      exact lookup_zip (hnames.nodup hfields) hname hv
    · cases hplace
      have hroot : outer ≠ .root := by
        rintro rfl
        cases hfollow
        cases hbare
      refine ⟨.element hplain hroot index, ?_⟩
      rw [follow_element hfollow hbare, hitem]

/-- Different positions in a record are at different places. -/
theorem address_eq_of_place_eq (hnames : i.PlainNames) {address address' : List Nat}
    {place : Place} {w w' : Value} (h : i.position? r address = some (place, w))
    (h' : i.position? r address' = some (place, w')) : address = address' := by
  induction address generalizing address' place w w' with
  | nil =>
    cases h
    cases address' with
    | nil => rfl
    | cons index' address' =>
      obtain ⟨x, -, hchild⟩ := Option.bind_eq_some_iff.mp h'
      exact absurd rfl (place_of_child? hchild).1
  | cons index address ih =>
    obtain ⟨⟨outer, u⟩, houter, hchild⟩ := Option.bind_eq_some_iff.mp h
    cases address' with
    | nil =>
      cases h'
      exact absurd rfl (place_of_child? hchild).1
    | cons index' address' =>
      obtain ⟨⟨outer', u'⟩, houter', hchild'⟩ := Option.bind_eq_some_iff.mp h'
      have heq : outer = outer' :=
        (place_of_child? hchild).2.symm.trans (place_of_child? hchild').2
      subst heq
      have haddress : address = address' := ih houter houter'
      subst haddress
      rw [houter] at houter'
      cases houter'
      rw [index_eq_of_child? hnames hchild hchild' rfl]

end Inspector

/-- A violation whose label leads to the value that it is about. The label can be read
back in one way, the place that it shows is where the value is, but for optional layers
around it, and the value gives cause for the violation in the check that reported it. -/
structure Inspector.Locates (i : Inspector) (now : Instant) (r : Record) (q : Inquiry)
    (v : Violation) (value : Value) : Prop where
  about : q.value? = some value
  shown : q.place.path? = some v.field
  read : Place.read? v.field = some q.place
  only : ∀ place : Place, place.Plain → place.path? = some v.field → place = q.place
  followed : ∃ w, i.follow r q.place = some w ∧ value ∈ w.layers
  checked : ∃ c nullable level outer,
    i.Reaches now r (.value c nullable q.place level outer) ∧ value ∈ outer.layers ∧
      q ∈ (Stage.value c nullable q.place level outer).own (i.terrain now)
  incurred : i.Incurs now v.field value v

namespace Inspector

variable {i : Inspector} {now : Instant} {r : Record}

theorem Reaches.locates (hnames : i.PlainNames) {c : Constraint} {nullable : Bool}
    {place : Place} {level : Nat} {outer : Value}
    (hreach : i.Reaches now r (.value c nullable place level outer)) {q : Inquiry}
    (hown : q ∈ (Stage.value c nullable place level outer).own (i.terrain now))
    {value : Value} (hvalue : q.value? = some value) {v : Violation}
    (hanswer : q.answer = .ok (some v)) : i.Locates now r q v value := by
  obtain ⟨hplain, hroot, hbinds, w, hw, houter⟩ := Stage.located_of_reaches hnames hreach
  obtain ⟨hplace, hmem, hfield, hincurs⟩ :=
    (prompts_own outer.mem_layers_self hbinds nullable level q hown).apt value v hvalue hanswer
  subst hplace
  have hpath : q.place.path? = some v.field := by
    cases hpath : q.place.path? with
    | none => exact absurd (Place.path?_eq_none_iff.mp hpath) hroot
    | some label => rw [hfield, Place.label_of_path? hpath]
  refine ⟨hvalue, hpath, hplain.read?_label hpath, ?_, ?_, ?_, ?_⟩
  · intro place hplace hlabel
    exact hplace.eq_of_path?_eq hplain (hlabel.trans hpath.symm)
  · exact ⟨w, hw, Value.mem_layers_trans hmem houter⟩
  · exact ⟨c, nullable, level, outer, hreach, hmem, hown⟩
  · rwa [hfield]

theorem value?_of_own_record {t : Terrain} {b : Blueprint} {place : Place} {tag : TypeTag}
    {level : Nat} {fields : List Value} {q : Inquiry}
    (h : q ∈ (Stage.record b place tag level fields).own t) : q.value? = none := by
  rcases List.mem_append.mp h with h | h
  · obtain ⟨_, _, _, -, -, -, -, rfl⟩ := Stage.mem_foreigners_iff.mp h
    rfl
  · obtain ⟨rule, -, rfl⟩ := List.mem_map.mp h
    rfl

/-- What reports a violation in a record is a check that the label of the violation leads
to, or a rule for whole records. -/
theorem locates_or_record (hnames : i.PlainNames) {q : Inquiry} {v : Violation}
    (hq : q ∈ (i.terrain now).root r.tag 0 r.fields) (hanswer : q.answer = .ok (some v)) :
    (∃ value, i.Locates now r q v value) ∨
      ∃ place tag fields model rule, q = .record place tag fields model rule := by
  cases hvalue : q.value? with
  | none =>
    cases q with
    | record place tag fields model rule => exact .inr ⟨place, tag, fields, model, rule, rfl⟩
    | refusal place f => cases hanswer
    | _ => cases hvalue
  | some value =>
    rcases mem_root_iff.mp hq with h | ⟨s, hreach, hown⟩
    · rcases refusal_of_mem_entry h with ⟨-, rfl⟩ | rfl <;> cases hvalue
    · cases s with
      | record b place tag level fields =>
        rw [value?_of_own_record hown] at hvalue
        cases hvalue
      | value c nullable place level outer =>
        exact .inl ⟨value, hreach.locates hnames hown hvalue hanswer⟩

/-- The labels of violations locate what failed. When no name of a field has dots or
brackets in it and no two fields of a type share their name, the label of each violation
that is not due to a rule for whole records leads to the value for which it was reported,
and different positions in a record never have the same label. -/
theorem labels_locate_values (i : Inspector) (now : Instant) (r : Record) (vs : Violations)
    (hnames : i.PlainNames) (hvs : i.violations now r = .ok vs) :
    let reports := Transcript.reports ((i.terrain now).root r.tag 0 r.fields)
    vs.items = reports.map (·.2) ∧
      (∀ q v, (q, v) ∈ reports → (∃ value, i.Locates now r q v value) ∨
        ∃ place tag fields model rule, q = .record place tag fields model rule) ∧
      (∀ address place w, i.position? r address = some (place, w) →
        i.follow r place = some w ∧
          ∀ label, place.path? = some label → Place.read? label = some place) ∧
      ∀ address address' place place' w w',
        i.position? r address = some (place, w) → i.position? r address' = some (place', w') →
          place.path? = place'.path? → address = address' := by
  intro reports
  refine ⟨?_, ?_, ?_, ?_⟩
  · rw [violations_eq, Transcript.outcome] at hvs
    split at hvs
    · cases hvs
    · cases hvs
      exact Transcript.found_ofInquiries _
  · intro q v hreport
    obtain ⟨hq, hanswer⟩ := Transcript.mem_reports hreport
    exact locates_or_record hnames hq hanswer
  · intro address place w h
    obtain ⟨hplain, hfollow⟩ := follow_position? hnames h
    exact ⟨hfollow, fun label hlabel => hplain.read?_label hlabel⟩
  · intro address address' place place' w w' h h' hpath
    have hplain := (follow_position? hnames h).1
    have hplain' := (follow_position? hnames h').1
    have hplace : place = place' := hplain.eq_of_path?_eq hplain' hpath
    subst hplace
    exact address_eq_of_place_eq hnames h h'

theorem plainNames_of_empty {i : Inspector} (h : i.blueprints = .empty) : i.PlainNames := by
  have hnone : ∀ tag, i.fieldNames? tag = none := by
    intro tag
    rw [fieldNames?, h]
    rfl
  constructor <;>
  · intro tag names hnames
    rw [hnone] at hnames
    cases hnames

/-- Names stay plain when a type with plain names is registered. -/
theorem PlainNames.register {i i' : Inspector} {t : RecordType} (hnames : i.PlainNames)
    (h : i.register t = .ok i') (hplain : ∀ name ∈ t.fields.map FieldDecl.name, PlainName name)
    (hnodup : (t.fields.map FieldDecl.name).Nodup) : i'.PlainNames := by
  obtain ⟨-, -, rfl⟩ := register_eq_ok_iff.mp h
  let e : Enrolment := ⟨t, i.lexicon, []⟩
  have hcases : ∀ {tag names}, fieldNames? { i with
      blueprints := i.blueprints.insert t.tag e.blueprint } tag = some names →
        names = t.fields.map FieldDecl.name ∨ i.fieldNames? tag = some names := by
    intro tag names hfields
    rw [fieldNames?, Roster.find?_insert] at hfields
    split at hfields
    · left
      rw [Option.map_some, e.fieldNames_blueprint] at hfields
      exact (Option.some.inj hfields).symm
    · exact .inr hfields
  constructor
  · intro tag names hfields
    rcases hcases hfields with rfl | hfields
    · exact hplain
    · exact hnames.plain hfields
  · intro tag names hfields
    rcases hcases hfields with rfl | hfields
    · exact hnodup
    · exact hnames.nodup hfields

theorem plainNames_user {i : Inspector} (h : register {} .user = .ok i) : i.PlainNames := by
  refine (plainNames_of_empty rfl).register h ?_ (by decide)
  intro name hname
  simp only [RecordType.user, List.map_cons, FieldDecl.name, List.map_nil, List.mem_cons,
    List.not_mem_nil, or_false] at hname
  rcases hname with rfl | rfl | rfl | rfl <;> exact ⟨by decide, by decide, by decide⟩

/-- An element that is missing is found behind the label of its violation. -/
theorem labels_locate_values_user :
    ∃ i q, register {} .user = .ok i ∧
      i.Locates ⟨0⟩ .user q (.required "tags[1]") .null ∧
      q.place = .element (.field .root "tags") 1 := by
  obtain ⟨i, hregister⟩ : ∃ i, register {} .user = .ok i :=
    (isSome_toOption _).mp (by cbv)
  have hviolations : i.violations ⟨0⟩ .user = .ok ⟨[
      ⟨"name", "name can not be longer than 3 characters", "max"⟩,
      ⟨"tags", "tags must have at least 3 elements", "min"⟩, .required "tags[1]",
      .required "boss.name", ⟨"boss.tags", "boss.tags must have at least 3 elements", "min"⟩,
      .required "boss.boss"]⟩ := by
    obtain ⟨-, -, rfl⟩ := register_eq_ok_iff.mp hregister
    cbv
  obtain ⟨hitems, hlocates, -, -⟩ :=
    labels_locate_values i ⟨0⟩ .user _ (plainNames_user hregister) hviolations
  have hmem : Violation.required "tags[1]" ∈ (Transcript.reports ((i.terrain ⟨0⟩).root
      Record.user.tag 0 Record.user.fields)).map (·.2) := by
    rw [← hitems]
    simp
  obtain ⟨⟨q, v⟩, hreport, hv⟩ := List.mem_map.mp hmem
  cases hv
  rcases hlocates q _ hreport with ⟨value, h⟩ | ⟨place, tag, fields, model, rule, rfl⟩
  · have hread : Place.read? "tags[1]" = some (.element (.field .root "tags") 1) := by cbv
    have hplace : q.place = .element (.field .root "tags") 1 := by
      have hsame : Place.read? "tags[1]" = some q.place := h.read
      rw [hread] at hsame
      exact (Option.some.inj hsame).symm
    obtain ⟨w, hw, hvalue⟩ := h.followed
    have hnull : i.follow .user (.element (.field .root "tags") 1) = some .null := by
      obtain ⟨-, -, rfl⟩ := register_eq_ok_iff.mp hregister
      rfl
    rw [hplace, hnull] at hw
    cases hw
    cases List.mem_singleton.mp hvalue
    exact ⟨i, q, hregister, h, hplace⟩
  · have hanswer := (Transcript.mem_reports hreport).2
    rw [Inquiry.answer] at hanswer
    split at hanswer <;>
      simp [Violation.recordCode, Violation.requiredCode] at hanswer

end Inspector

end RecordValidation
