import RecordValidation.Proofs.Position
import RecordValidation.Proofs.Refusal

/-!
The provenance of inquiries. A survey enters a record only by the blueprint that the
inspector has under the type of this record, and looks at values only by constraints of
such blueprints. From this it is known what any inquiry is about, and what a check can end
with.
-/

namespace RecordValidation

/-- A stage to which a survey is led by blueprints that the inspector has. -/
def Stage.Founded (i : Inspector) : Stage → Prop
  | .value c _ _ _ _ => ∀ x ∈ c.bindings, i.Binds x.1 x.2
  | .record b _ tag _ _ => i.blueprints.find? tag = some b

namespace Stage

variable {i : Inspector} {now : Instant} {r : Record}

theorem Founded.leads {s s' : Stage} (h : s.Founded i) (hleads : (i.terrain now).Leads s s') :
    s'.Founded i := by
  cases hleads with
  | just hne nullable place level inner => exact h
  | element head c nullable place level hitem =>
    have hbinds : ∀ x ∈ (Constraint.sequence head c).bindings, i.Binds x.1 x.2 := h
    simp only [Constraint.bindings, List.forall_mem_append] at hbinds
    exact hbinds.2
  | enter head nullable place fields hb hlevel => exact hb
  | @field b place tag level fields index plan v hplan hv howner =>
    intro x hx
    exact ⟨tag, b, h, plan, List.mem_of_getElem? hplan, hx⟩

theorem founded_of_reaches {s : Stage} (h : i.Reaches now r s) : s.Founded i := by
  obtain ⟨b, hb, -, hreach⟩ := h
  induction hreach with
  | refl => exact hb
  | step _ hleads ih => exact ih.leads hleads

end Stage

/-- Where an inquiry comes from: a value prompts it, it asks a rule for the records of a
type about a record of this type, or a plan of the type is for another one. -/
inductive Inspector.Origin (i : Inspector) (now : Instant) : Inquiry → Prop
  | value {place : Place} {w : Value} {q : Inquiry} (h : i.Prompts now place w q) :
      i.Origin now q
  | record {tag : TypeTag} {b : Blueprint} {rule : OwnedRule}
      (hb : i.blueprints.find? tag = some b) (hrule : rule ∈ b.recordRules) (place : Place)
      (fields : List Value) : i.Origin now (.record place tag fields b.name rule)
  | foreign {tag : TypeTag} {b : Blueprint} {plan : FieldPlan}
      (hb : i.blueprints.find? tag = some b) (hplan : plan ∈ b.fields)
      (howner : plan.owner ≠ tag) (place : Place) (f : Fault) :
      i.Origin now (.refusal place f)

namespace Inspector

variable {i : Inspector} {now : Instant} {r : Record} {f : Fault}

/-- Every inquiry into a record has an origin. -/
theorem origin_of_mem_root {q : Inquiry} (h : q ∈ (i.terrain now).root r.tag 0 r.fields) :
    i.Origin now q := by
  rcases mem_root_iff.mp h with h | ⟨s, hreach, hown⟩
  · exact .value (prompts_entry (w := .record r.tag r.fields) q h)
  have hfounded := Stage.founded_of_reaches hreach
  cases s with
  | value c nullable place level v =>
    exact .value (prompts_own v.mem_layers_self hfounded nullable level q hown)
  | record b place tag level fields =>
    rcases List.mem_append.mp hown with hown | hown
    · obtain ⟨index, v, plan, -, hplan, howner, -, rfl⟩ := Stage.mem_foreigners_iff.mp hown
      exact .foreign hfounded (List.mem_of_getElem? hplan) howner _ _
    · obtain ⟨rule, hrule, rfl⟩ := List.mem_map.mp hown
      exact .record hfounded hrule place fields

/-- Whether some check ends with a fault. -/
inductive Ends (i : Inspector) (now : Instant) (f : Fault) : Prop
  | violations {r : Record} (h : i.violations now r = .error f)
  | violation {r : Record} (h : i.violation? now r = .error f)
  | violationsOf {value : Value} (h : i.violationsOf now value = .error f)
  | violationOf {value : Value} (h : i.violationOf? now value = .error f)

theorem recordOf_eq_error {value : Value} (h : recordOf value = .error f) :
    ∃ found, f = .notRecord found := by
  induction value using recordOf.induct with
  | case1 tag fields => cases h
  | case2 inner ih => exact ih h
  | case3 =>
    cases h
    exact ⟨_, rfl⟩
  | case4 value hrecord hjust hnull =>
    rw [recordOf] at h
    · cases h
      exact ⟨_, rfl⟩
    · exact hrecord
    · exact hjust
    · exact hnull

/-- A check that ends with a fault was not given a record at all, or an inquiry into the
record was answered with the fault. -/
theorem Ends.cases (h : i.Ends now f) :
    (∃ found, f = .notRecord found) ∨
      ∃ (r : Record) (q : Inquiry), q ∈ (i.terrain now).root r.tag 0 r.fields ∧
        q.answer = .error f := by
  have hrecord {r : Record} (h : i.violation? now r = .error f ∨ i.violations now r = .error f) :
      ∃ (r : Record) (q : Inquiry), q ∈ (i.terrain now).root r.tag 0 r.fields ∧
        q.answer = .error f :=
    ⟨r, Transcript.exists_answer_of_fault (fault_of_error h)⟩
  cases h with
  | violations h => exact .inr (hrecord (.inr h))
  | violation h => exact .inr (hrecord (.inl h))
  | violationsOf h =>
    rcases bind_eq_error_iff.mp h with h | ⟨r, -, h⟩
    · exact .inl (recordOf_eq_error h)
    · exact .inr (hrecord (.inr h))
  | violationOf h =>
    rcases bind_eq_error_iff.mp h with h | ⟨r, -, h⟩
    · exact .inl (recordOf_eq_error h)
    · exact .inr (hrecord (.inl h))

end Inspector

end RecordValidation
