import RecordValidation.Proofs.Influence
import RecordValidation.Proofs.Layers
import RecordValidation.Proofs.Refusal

/-!
Records in layers. A value can be checked without its type being known: options and boxes are
taken off it until there is a record, which is then checked as if it had been given by itself.
Where there is no record in the layers nothing is checked at all, and the answer names what
was found instead.
-/

namespace RecordValidation

/-- The record that is read from stored fields. -/
def Record.ofData (tag : TypeTag) (fields : List Datum) : Record := ⟨tag, fields.map Datum.view⟩

/-- Questions that come to the same: a record is given by itself in the first one, and in
layers in the second. -/
inductive Step.Wraps : Step → Step → Prop
  | same (s : Step) : Wraps s s
  | violation (tag : TypeTag) (fields : List Datum) (layers : List Layer) :
      Wraps (.violation (.ofData tag fields))
        (.violationOf ((Datum.record tag fields).wrap layers).view)
  | violations (tag : TypeTag) (fields : List Datum) (layers : List Layer) :
      Wraps (.violations (.ofData tag fields))
        (.violationsOf ((Datum.record tag fields).wrap layers).view)

namespace Inspector

theorem recordOf_just_iterate (count : Nat) (value : Value) :
    recordOf (Value.just^[count] value) = recordOf value := by
  induction count with
  | zero => rfl
  | succ count ih => rw [Function.iterate_succ_apply', recordOf, ih]

theorem recordOf_of_kind {value : Value} (hoptional : value.kind ≠ .optional)
    (hrecord : value.kind ≠ .record) : recordOf value = .error (.notRecord value.kind.name) := by
  cases value with
  | null | just inner => exact absurd rfl hoptional
  | record tag fields => exact absurd rfl hrecord
  | _ => rfl

theorem recordOf_wrap (tag : TypeTag) (fields : List Datum) (layers : List Layer) :
    recordOf ((Datum.record tag fields).wrap layers).view = .ok (.ofData tag fields) := by
  rw [Datum.view_wrap, recordOf_just_iterate, Datum.view, Datum.views_eq]
  rfl

variable (i : Inspector) (now : Instant)

/-- What the layers hold is all that is asked for. -/
theorem asked_of_recordOf {value : Value} {r : Record} (h : recordOf value = .ok r) :
    i.violationOf? now value = i.violation? now r ∧
      i.violationsOf now value = i.violations now r := by
  constructor
  · rw [violationOf?, h]
    rfl
  · rw [violationsOf, h]
    rfl

theorem fault_of_recordOf {value : Value} {f : Fault} (h : recordOf value = .error f) :
    i.violationOf? now value = .error f ∧ i.violationsOf now value = .error f := by
  constructor
  · rw [violationOf?, h]
    rfl
  · rw [violationsOf, h]
    rfl

theorem step_of_wraps {s s' : Step} (h : s.Wraps s') : i.step now s' = i.step now s := by
  cases h with
  | same s => rfl
  | violation tag fields layers =>
    obtain ⟨hviolation, -⟩ := i.asked_of_recordOf now (recordOf_wrap tag fields layers)
    rw [step, step, hviolation]
  | violations tag fields layers =>
    obtain ⟨-, hviolations⟩ := i.asked_of_recordOf now (recordOf_wrap tag fields layers)
    rw [step, step, hviolations]

theorem run_of_wraps {steps steps' : List Step} (h : List.Forall₂ Step.Wraps steps steps') :
    i.run now steps' = i.run now steps := by
  induction h generalizing i with
  | nil => rfl
  | cons hstep hsteps ih => rw [run_cons, run_cons, i.step_of_wraps now hstep, ih]

end Inspector

/-- To check a value of unknown type is to check the record in its layers, whatever there is
to be found or to fail. Layers that end in a null, or hold a value that is no record, are
refused by what is in them, alike for all inspectors. And in a session a record can be given
in any layers instead of by itself, without any difference to what comes of it. -/
theorem Inspector.layers_unwrapped (now : Instant) (layers : List Layer) :
    (∀ (i : Inspector) (tag : TypeTag) (fields : List Datum),
      let value := ((Datum.record tag fields).wrap layers).view
      i.violationOf? now value = i.violation? now (.ofData tag fields) ∧
        i.violationsOf now value = i.violations now (.ofData tag fields)) ∧
    (∀ i : Inspector,
      i.violationOf? now (Datum.none.wrap layers).view = .error (.notRecord "none") ∧
        i.violationsOf now (Datum.none.wrap layers).view = .error (.notRecord "none")) ∧
    (∀ d : Datum, d.view.kind ≠ .optional → d.view.kind ≠ .record → ∀ i : Inspector,
      i.violationOf? now (d.wrap layers).view = .error (.notRecord d.view.kind.name) ∧
        i.violationsOf now (d.wrap layers).view = .error (.notRecord d.view.kind.name)) ∧
    ∀ (i : Inspector) (steps steps' : List Step), List.Forall₂ Step.Wraps steps steps' →
      i.run now steps' = i.run now steps := by
  refine ⟨fun i tag fields => ?_, fun i => ?_, fun d hoptional hrecord i => ?_,
    fun i steps steps' h => i.run_of_wraps now h⟩
  · exact i.asked_of_recordOf now (recordOf_wrap tag fields layers)
  · refine i.fault_of_recordOf now ?_
    rw [Datum.view_wrap, recordOf_just_iterate]
    rfl
  · refine i.fault_of_recordOf now ?_
    rw [Datum.view_wrap, recordOf_just_iterate]
    exact recordOf_of_kind hoptional hrecord

/-- A user in two options and a box is checked like the user, and a flag is no record. -/
theorem Inspector.layers_unwrapped_user :
    let layers : List Layer := [.option, .boxed, .option]
    let data : List Datum := [.text "Anna", .sequence [.some (.text "a")], .none, .flag true]
    (Datum.flag true).view.kind ≠ .optional ∧ (Datum.flag true).view.kind ≠ .record ∧
    ∃ i, register {} .user = .ok i ∧
      i.violationsOf ⟨0⟩ ((Datum.record ⟨1, "User"⟩ data).wrap layers).view = .ok ⟨[
        ⟨"name", "name can not be longer than 3 characters", "max"⟩,
        ⟨"tags", "tags must have at least 3 elements", "min"⟩, .required "boss"]⟩ ∧
      i.violationOf? ⟨0⟩ ((Datum.flag true).wrap layers).view = .error (.notRecord "opaque") ∧
      i.run ⟨0⟩ [.ruleNames, .violationOf ((Datum.record ⟨1, "User"⟩ data).wrap layers).view] =
        i.run ⟨0⟩ [.ruleNames, .violation (.ofData ⟨1, "User"⟩ data)] := by
  intro layers data
  obtain ⟨i, hregister⟩ : ∃ i, register {} .user = .ok i := (isSome_toOption _).mp (by cbv)
  obtain ⟨hrecord, -, hother, hrun⟩ := layers_unwrapped ⟨0⟩ layers
  have hoptional : (Datum.flag true).view.kind ≠ .optional := by decide
  have hkind : (Datum.flag true).view.kind ≠ .record := by decide
  refine ⟨hoptional, hkind, i, hregister, ?_, (hother (.flag true) hoptional hkind i).1, ?_⟩
  · rw [(hrecord i ⟨1, "User"⟩ data).2]
    obtain ⟨-, -, rfl⟩ := register_eq_ok_iff.mp hregister
    cbv
  · exact hrun i _ _ (.cons (.same .ruleNames) (.cons (.violation _ _ layers) .nil))

end RecordValidation
