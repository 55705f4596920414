import RecordValidation.Proofs.Compilation

/-!
Stages of a survey. From a value or a record a survey is led on to what it holds, and
each stage on the way has inquiries of its own. All inquiries of an agenda are such
inquiries, so what can be asked is known from where a survey can be led.
-/

namespace RecordValidation

/-- What a survey looks at: a value under a constraint, or a record that it has entered
by a blueprint. -/
inductive Stage
  | value (c : Constraint) (nullable : Bool) (place : Place) (level : Nat) (v : Value)
  | record (b : Blueprint) (place : Place) (tag : TypeTag) (level : Nat) (fields : List Value)

namespace Stage

open Inquiry

def place : Stage → Place
  | .value _ _ place _ _ => place
  | .record _ place _ _ _ => place

/-- All inquiries into what a stage looks at. -/
def agenda (t : Terrain) : Stage → List Inquiry
  | .value c nullable place level v => t.agenda c nullable place level v
  | .record b place tag level fields =>
    t.fields b place tag level fields b.fields ++ ofRecordRules b place tag fields

/-- The fields with plans for another type of record. A survey can not go beyond them. -/
def foreigners (b : Blueprint) (place : Place) (tag : TypeTag) (fields : List Value) :
    List Inquiry :=
  ((fields.zip b.fields).filter fun x =>
      !x.2.constraint.isUnchecked && x.2.owner != tag).map fun x =>
    .refusal (place.field x.2.name) (.foreignRecord (place.field x.2.name).label b.name)

/-- The inquiries that a stage puts itself. -/
def own (t : Terrain) : Stage → List Inquiry
  | .value (.pointer head target) _ place _ v => t.pointer place head target v
  | .value _ _ _ _ (.just _) => []
  | .value (.sequence head _) _ place _ (.sequence items) =>
    ofSegment .sequence head (.sequence items.length) place (.sequence items)
  | .value (.record head) _ place level (.record tag fields) =>
    ofRules place (.record tag fields) .record head.custom ++ t.entry place tag level fun _ => []
  | .value c nullable place _ v => t.plain nullable place v c
  | .record b place tag _ fields => foreigners b place tag fields ++ ofRecordRules b place tag fields

end Stage

/-- The steps by which a survey is led from one stage to the next. -/
inductive Terrain.Leads (t : Terrain) : Stage → Stage → Prop
  | just {c : Constraint} (hne : ∀ head target, c ≠ .pointer head target) (nullable : Bool)
      (place : Place) (level : Nat) (inner : Value) :
      t.Leads (.value c nullable place level (.just inner)) (.value c true place level inner)
  | element (head : Segment Nat Empty) (c : Constraint) (nullable : Bool) (place : Place)
      (level : Nat) {items : List Value} {index : Nat} {item : Value}
      (h : items[index]? = some item) :
      t.Leads (.value (.sequence head c) nullable place level (.sequence items))
        (.value c false (place.element index) level item)
  | enter (head : Segment Empty Empty) (nullable : Bool) (place : Place) {level : Nat}
      {tag : TypeTag} (fields : List Value) {b : Blueprint}
      (hb : t.blueprints.find? tag = some b) (hlevel : level < t.limit) :
      t.Leads (.value (.record head) nullable place level (.record tag fields))
        (.record b place tag (level + 1) fields)
  | field (b : Blueprint) (place : Place) {tag : TypeTag} (level : Nat) {fields : List Value}
      {index : Nat} {plan : FieldPlan} {v : Value} (hplan : b.fields[index]? = some plan)
      (hvalue : fields[index]? = some v) (howner : plan.owner = tag) :
      t.Leads (.record b place tag level fields)
        (.value plan.constraint false (place.field plan.name) level v)

namespace Terrain

/-- The stages that a survey is led to from a stage, by any number of steps. -/
inductive Reaches (t : Terrain) (s : Stage) : Stage → Prop
  | refl : t.Reaches s s
  | step {s' s'' : Stage} (h : t.Reaches s s') (hleads : t.Leads s' s'') : t.Reaches s s''

theorem Reaches.head {t : Terrain} {s s' s'' : Stage} (hleads : t.Leads s s')
    (h : t.Reaches s' s'') : t.Reaches s s'' := by
  induction h with
  | refl => exact .step .refl hleads
  | step _ hleads' ih => exact .step ih hleads'

open Inquiry

variable {t : Terrain} {q : Inquiry}

theorem mem_elements_iff {c : Constraint} {place : Place} {start level : Nat}
    {items : List Value} :
    q ∈ t.elements c place start level items ↔
      ∃ index item, items[index]? = some item ∧
        q ∈ t.agenda c false (place.element (start + index)) level item := by
  induction items generalizing start with
  | nil => simp [elements]
  | cons item rest ih =>
    simp only [elements, List.mem_append, ih]
    constructor
    · rintro (h | ⟨index, item', hitem, h⟩)
      · exact ⟨0, item, rfl, h⟩
      · refine ⟨index + 1, item', hitem, ?_⟩
        rwa [Nat.add_comm index 1, ← Nat.add_assoc]
    · rintro ⟨index, item', hitem, h⟩
      cases index with
      | zero =>
        cases hitem
        exact .inl h
      | succ index =>
        refine .inr ⟨index, item', hitem, ?_⟩
        rwa [Nat.add_comm index 1, ← Nat.add_assoc] at h

theorem mem_fields_iff {b : Blueprint} {place : Place} {tag : TypeTag} {level : Nat}
    {fields : List Value} {plans : List FieldPlan} :
    q ∈ t.fields b place tag level fields plans ↔
      ∃ (index : Nat) (v : Value) (plan : FieldPlan),
        fields[index]? = some v ∧ plans[index]? = some plan ∧
          (plan.owner = tag ∧
              q ∈ t.agenda plan.constraint false (place.field plan.name) level v ∨
            plan.owner ≠ tag ∧ plan.constraint.isUnchecked = false ∧
              q = .refusal (place.field plan.name)
                (.foreignRecord (place.field plan.name).label b.name)) := by
  induction fields generalizing plans with
  | nil => simp [Terrain.fields]
  | cons v rest ih =>
    cases plans with
    | nil => simp [Terrain.fields]
    | cons plan plans =>
      have hfirst : q ∈ (if plan.constraint.isUnchecked then []
            else if tag ≠ plan.owner then
              [.refusal (place.field plan.name)
                (.foreignRecord (place.field plan.name).label b.name)]
            else t.agenda plan.constraint false (place.field plan.name) level v) ↔
          plan.owner = tag ∧
              q ∈ t.agenda plan.constraint false (place.field plan.name) level v ∨
            plan.owner ≠ tag ∧ plan.constraint.isUnchecked = false ∧
              q = .refusal (place.field plan.name)
                (.foreignRecord (place.field plan.name).label b.name) := by
        by_cases howner : plan.owner = tag
        · subst howner
          simp [ite_isUnchecked]
        · have howner' : ¬tag = plan.owner := Ne.symm howner
          simp [howner, howner']
      simp only [Terrain.fields, List.mem_append, ih, hfirst]
      constructor
      · rintro (h | ⟨index, v', plan', hv, hplan, h⟩)
        · exact ⟨0, v, plan, rfl, rfl, h⟩
        · exact ⟨index + 1, v', plan', hv, hplan, h⟩
      · rintro ⟨index, v', plan', hv, hplan, h⟩
        cases index with
        | zero =>
          cases hv
          cases hplan
          exact .inl h
        | succ index => exact .inr ⟨index, v', plan', hv, hplan, h⟩

/-- The way into a record leads to what is asked there, unless it is refused. -/
theorem mem_entry_iff {place : Place} {tag : TypeTag} {level : Nat}
    {body : Blueprint → List Inquiry} :
    q ∈ t.entry place tag level body ↔ q ∈ t.entry place tag level (fun _ => []) ∨
      ∃ b, t.blueprints.find? tag = some b ∧ level < t.limit ∧ q ∈ body b := by
  unfold entry
  cases hfind : t.blueprints.find? tag with
  | none => simp
  | some b =>
    by_cases hlevel : t.limit ≤ level
    · have hlevel' : ¬level < t.limit := Nat.not_lt.mpr hlevel
      simp [hlevel, hlevel']
    · have hlevel' : level < t.limit := Nat.lt_of_not_le hlevel
      simp [hlevel, hlevel']

end Terrain

namespace Stage

open Inquiry

variable {t : Terrain} {q : Inquiry}

theorem mem_foreigners_iff {b : Blueprint} {place : Place} {tag : TypeTag}
    {fields : List Value} :
    q ∈ foreigners b place tag fields ↔
      ∃ (index : Nat) (v : Value) (plan : FieldPlan),
        fields[index]? = some v ∧ b.fields[index]? = some plan ∧
          plan.owner ≠ tag ∧ plan.constraint.isUnchecked = false ∧
            q = .refusal (place.field plan.name)
              (.foreignRecord (place.field plan.name).label b.name) := by
  unfold foreigners
  simp only [List.mem_map, List.mem_filter, Bool.and_eq_true, Bool.not_eq_true', bne_iff_ne]
  constructor
  · rintro ⟨⟨v, plan⟩, ⟨hmem, hunchecked, howner⟩, rfl⟩
    obtain ⟨index, hindex⟩ := List.mem_iff_getElem?.mp hmem
    obtain ⟨hv, hplan⟩ := List.getElem?_zip_eq_some.mp hindex
    exact ⟨index, v, plan, hv, hplan, howner, hunchecked, rfl⟩
  · rintro ⟨index, v, plan, hv, hplan, howner, hunchecked, rfl⟩
    have hmem : (v, plan) ∈ fields.zip b.fields :=
      List.mem_of_getElem? (List.getElem?_zip_eq_some.mpr ⟨hv, hplan⟩)
    exact ⟨(v, plan), ⟨hmem, hunchecked, howner⟩, rfl⟩

theorem mem_agenda_record_iff {b : Blueprint} {place : Place} {tag : TypeTag} {level : Nat}
    {fields : List Value} :
    q ∈ (Stage.record b place tag level fields).agenda t ↔
      q ∈ (Stage.record b place tag level fields).own t ∨
        ∃ s', t.Leads (.record b place tag level fields) s' ∧ q ∈ s'.agenda t := by
  rw [agenda, own, List.mem_append, List.mem_append, Terrain.mem_fields_iff, mem_foreigners_iff]
  constructor
  · rintro (⟨index, v, plan, hv, hplan, ⟨howner, h⟩ | ⟨howner, hunchecked, h⟩⟩ | h)
    · exact .inr ⟨_, .field b place level hplan hv howner, h⟩
    · exact .inl (.inl ⟨index, v, plan, hv, hplan, howner, hunchecked, h⟩)
    · exact .inl (.inr h)
  · rintro ((⟨index, v, plan, hv, hplan, howner, hunchecked, h⟩ | h) | ⟨s', hleads, h⟩)
    · exact .inl ⟨index, v, plan, hv, hplan, .inr ⟨howner, hunchecked, h⟩⟩
    · exact .inr h
    · cases hleads with
      | field b place level hplan hv howner => exact .inl ⟨_, _, _, hv, hplan, .inl ⟨howner, h⟩⟩

/-- A stage that leads nowhere puts all its inquiries itself. -/
theorem mem_agenda_iff_of_end {s : Stage} (hown : s.agenda t = s.own t)
    (hleads : ∀ s', ¬t.Leads s s') :
    q ∈ s.agenda t ↔ q ∈ s.own t ∨ ∃ s', t.Leads s s' ∧ q ∈ s'.agenda t := by
  rw [hown]
  constructor
  · exact .inl
  · rintro (h | ⟨s', hs', -⟩)
    · exact h
    · exact absurd hs' (hleads s')

/-- The inquiries into what a stage looks at are its own and those of the stages that a
survey is led to from there. -/
theorem mem_agenda_iff (s : Stage) :
    q ∈ s.agenda t ↔ q ∈ s.own t ∨ ∃ s', t.Leads s s' ∧ q ∈ s'.agenda t := by
  cases s with
  | record b place tag level fields => exact mem_agenda_record_iff
  | value c nullable place level v =>
    cases v with
    | just inner =>
      by_cases hpointer : ∃ head target, c = .pointer head target
      · obtain ⟨head, target, rfl⟩ := hpointer
        refine mem_agenda_iff_of_end (by simp only [agenda, own, Terrain.agenda]) ?_
        intro s' hleads
        cases hleads with
        | just hne => exact hne head target rfl
      · have hne : ∀ head target, c ≠ .pointer head target :=
          fun head target he => hpointer ⟨head, target, he⟩
        have hown : (Stage.value c nullable place level (.just inner)).own t = [] := by
          cases c with
          | pointer head target => exact absurd rfl (hne head target)
          | _ => rfl
        rw [hown, agenda, Terrain.agenda_just t nullable place level hne]
        constructor
        · exact fun h => .inr ⟨_, .just hne nullable place level inner, h⟩
        · rintro (h | ⟨s', hleads, h⟩)
          · cases h
          · cases hleads
            exact h
    | sequence items =>
      cases c with
      | sequence head element =>
        simp only [agenda, own, Terrain.agenda, List.mem_append, Terrain.mem_elements_iff,
          Nat.zero_add]
        constructor
        · rintro (h | ⟨index, item, hitem, h⟩)
          · exact .inl h
          · exact .inr ⟨_, .element head element nullable place level hitem, h⟩
        · rintro (h | ⟨s', hleads, h⟩)
          · exact .inl h
          · cases hleads with
            | element head c nullable place level hitem => exact .inr ⟨_, _, hitem, h⟩
      | _ =>
        refine mem_agenda_iff_of_end ?_ nofun
        simp only [agenda, own, Terrain.agenda, Terrain.plain]
    | record tag fields =>
      cases c with
      | record head =>
        simp only [agenda, own, Terrain.agenda, List.mem_append]
        rw [Terrain.mem_entry_iff, ← or_assoc]
        apply or_congr Iff.rfl
        constructor
        · rintro ⟨b, hb, hlevel, h⟩
          exact ⟨_, .enter head nullable place fields hb hlevel, h⟩
        · rintro ⟨s', hleads, h⟩
          cases hleads with
          | enter head nullable place fields hb hlevel =>
            exact ⟨_, hb, hlevel, h⟩
      | _ =>
        refine mem_agenda_iff_of_end ?_ nofun
        simp only [agenda, own, Terrain.agenda, Terrain.plain]
    | _ =>
      refine mem_agenda_iff_of_end ?_ nofun
      cases c <;> simp only [agenda, own, Terrain.agenda, Terrain.plain]

/-- How much there is still to look at. -/
noncomputable def size : Stage → Nat
  | .value _ _ _ _ v => sizeOf v
  | .record _ _ _ _ fields => sizeOf fields

theorem size_lt_of_leads {s s' : Stage} (h : t.Leads s s') : s'.size < s.size := by
  cases h with
  | just hne nullable place level inner =>
    show sizeOf inner < sizeOf (Value.just inner)
    simp only [Value.just.sizeOf_spec]
    omega
  | @element head c nullable place level items index item hitem =>
    have hlt := List.sizeOf_lt_of_mem (List.mem_of_getElem? hitem)
    show sizeOf item < sizeOf (Value.sequence items)
    simp only [Value.sequence.sizeOf_spec]
    omega
  | @enter head nullable place level tag fields b hb hlevel =>
    show sizeOf fields < sizeOf (Value.record tag fields)
    simp only [Value.record.sizeOf_spec]
    omega
  | field b place level hplan hv howner =>
    exact List.sizeOf_lt_of_mem (List.mem_of_getElem? hv)

/-- Every inquiry of an agenda is put by a stage that the survey is led to itself. -/
theorem mem_agenda_iff_exists (s : Stage) :
    q ∈ s.agenda t ↔ ∃ s', t.Reaches s s' ∧ q ∈ s'.own t := by
  constructor
  · induction hsize : s.size using Nat.strongRecOn generalizing s with
    | ind n ih =>
      intro h
      rcases (mem_agenda_iff s).mp h with hown | ⟨s', hleads, h⟩
      · exact ⟨s, .refl, hown⟩
      · have hlt : s'.size < n := hsize ▸ size_lt_of_leads hleads
        obtain ⟨s'', hreach, hown⟩ := ih s'.size hlt s' rfl h
        exact ⟨s'', .head hleads hreach, hown⟩
  · rintro ⟨s', hreach, hown⟩
    have hmem : q ∈ s'.agenda t := (mem_agenda_iff s').mpr (.inl hown)
    clear hown
    induction hreach with
    | refl => exact hmem
    | step _ hleads ih => exact ih ((mem_agenda_iff _).mpr (.inr ⟨_, hleads, hmem⟩))

end Stage

namespace Inspector

/-- The stages of a survey of a record that stands in no other. -/
def Reaches (i : Inspector) (now : Instant) (r : Record) (s : Stage) : Prop :=
  ∃ b, i.blueprints.find? r.tag = some b ∧ 0 < i.settings.maxDepth ∧
    (i.terrain now).Reaches (.record b .root r.tag 1 r.fields) s

/-- The inquiries into a record are those of the stages of its survey, unless the survey
does not even enter the record. -/
theorem mem_root_iff {i : Inspector} {now : Instant} {r : Record} {q : Inquiry} :
    q ∈ (i.terrain now).root r.tag 0 r.fields ↔
      q ∈ (i.terrain now).entry .root r.tag 0 (fun _ => []) ∨
        ∃ s, i.Reaches now r s ∧ q ∈ s.own (i.terrain now) := by
  rw [Terrain.root, Terrain.mem_entry_iff]
  apply or_congr Iff.rfl
  constructor
  · rintro ⟨b, hb, hlevel, h⟩
    obtain ⟨s, hreach, hown⟩ := (Stage.mem_agenda_iff_exists (.record b .root r.tag 1 r.fields)).mp h
    exact ⟨s, ⟨b, hb, hlevel, hreach⟩, hown⟩
  · rintro ⟨s, ⟨b, hb, hlevel, hreach⟩, hown⟩
    exact ⟨b, hb, hlevel, (Stage.mem_agenda_iff_exists _).mpr ⟨s, hreach, hown⟩⟩

end Inspector

end RecordValidation
