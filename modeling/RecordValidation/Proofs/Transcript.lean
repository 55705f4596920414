import RecordValidation.Proofs.Inquiry

/-!
Transcripts: what a list of inquiries brings to light up to the first fault. The
course of a survey that puts these inquiries is read off their transcript, for
surveys after the first violation as for surveys after all of them.
-/

namespace RecordValidation

/-- The violations that come to light before the first fault, and that fault. -/
structure Transcript where
  found : List Violation := []
  fault : Option Fault := none
  deriving DecidableEq, Repr

namespace Transcript

/-- One transcript after another. A fault in the first leaves the second out. -/
def andThen (a b : Transcript) : Transcript :=
  match a.fault with
  | some _ => a
  | none => ⟨a.found ++ b.found, b.fault⟩

theorem andThen_of_fault {a : Transcript} {f : Fault} (h : a.fault = some f) (b : Transcript) :
    a.andThen b = a := by
  rw [andThen, h]

theorem andThen_of_no_fault {a : Transcript} (h : a.fault = none) (b : Transcript) :
    a.andThen b = ⟨a.found ++ b.found, b.fault⟩ := by
  rw [andThen, h]

theorem andThen_assoc (a b c : Transcript) :
    (a.andThen b).andThen c = a.andThen (b.andThen c) := by
  cases ha : a.fault with
  | some f => rw [andThen_of_fault ha, andThen_of_fault ha, andThen_of_fault ha]
  | none =>
    rw [andThen_of_no_fault ha, andThen_of_no_fault ha]
    cases hb : b.fault with
    | some f => rw [andThen_of_fault rfl, andThen_of_fault hb, hb]
    | none => rw [andThen_of_no_fault rfl, andThen_of_no_fault hb, List.append_assoc]

theorem fault_andThen_eq_none_iff {a b : Transcript} :
    (a.andThen b).fault = none ↔ a.fault = none ∧ b.fault = none := by
  cases ha : a.fault with
  | some f =>
    rw [andThen_of_fault ha, ha]
    exact ⟨nofun, nofun⟩
  | none =>
    rw [andThen_of_no_fault ha]
    exact ⟨fun hb => ⟨rfl, hb⟩, fun h => h.2⟩

/-- The transcript of an answer. -/
def ofAnswer : Except Fault (Option Violation) → Transcript
  | .ok none => {}
  | .ok (some v) => ⟨[v], none⟩
  | .error f => ⟨[], some f⟩

def ofInquiries : List Inquiry → Transcript
  | [] => {}
  | q :: rest => (ofAnswer q.answer).andThen (ofInquiries rest)

theorem ofInquiries_append (a b : List Inquiry) :
    ofInquiries (a ++ b) = (ofInquiries a).andThen (ofInquiries b) := by
  induction a with
  | nil => rfl
  | cons q rest ih => simp only [List.cons_append, ofInquiries, ih, andThen_assoc]

/-- The fault of a transcript is the answer to one of the inquiries. -/
theorem exists_answer_of_fault {l : List Inquiry} {f : Fault}
    (h : (ofInquiries l).fault = some f) : ∃ q ∈ l, q.answer = .error f := by
  induction l with
  | nil => cases h
  | cons q rest ih =>
    rw [ofInquiries] at h
    cases ha : q.answer with
    | error f' =>
      rw [ha, ofAnswer, andThen_of_fault rfl] at h
      exact ⟨q, List.mem_cons_self, by rw [ha, Option.some.inj h]⟩
    | ok found =>
      have hnone : (ofAnswer q.answer).fault = none := by
        rw [ha]
        cases found <;> rfl
      rw [andThen_of_no_fault hnone] at h
      obtain ⟨q', hmem, hq'⟩ := ih h
      exact ⟨q', List.mem_cons_of_mem q hmem, hq'⟩

/-- The inquiries that report something before the first fault, with what they report. -/
def reports : List Inquiry → List (Inquiry × Violation)
  | [] => []
  | q :: rest =>
    match q.answer with
    | .ok none => reports rest
    | .ok (some v) => (q, v) :: reports rest
    | .error _ => []

theorem found_ofInquiries (l : List Inquiry) :
    (ofInquiries l).found = (reports l).map (·.2) := by
  induction l with
  | nil => rfl
  | cons q rest ih =>
    rw [ofInquiries, reports]
    cases q.answer with
    | error f => rfl
    | ok found =>
      cases found with
      | none => exact ih
      | some v => exact congrArg (v :: ·) ih

theorem mem_reports {l : List Inquiry} {q : Inquiry} {v : Violation} (h : (q, v) ∈ reports l) :
    q ∈ l ∧ q.answer = .ok (some v) := by
  induction l with
  | nil => cases h
  | cons q' rest ih =>
    rw [reports] at h
    cases hanswer : q'.answer with
    | error f =>
      rw [hanswer] at h
      cases h
    | ok found =>
      rw [hanswer] at h
      cases found with
      | none =>
        obtain ⟨hmem, hq⟩ := ih h
        exact ⟨List.mem_cons_of_mem q' hmem, hq⟩
      | some v' =>
        rcases List.mem_cons.mp h with h | h
        · cases h
          exact ⟨List.mem_cons_self, hanswer⟩
        · obtain ⟨hmem, hq⟩ := ih h
          exact ⟨List.mem_cons_of_mem q' hmem, hq⟩

/-- What a survey keeps of a transcript. -/
def collected (t : Transcript) : Extent → List Violation
  | .first => t.found.take 1
  | .all => t.found

/-- Why a survey stops within a transcript. One that is after the first violation
does not get to a fault behind it. -/
def stop? (t : Transcript) : Extent → Option Stop
  | .first => if t.found.isEmpty then t.fault.map .failed else some .full
  | .all => t.fault.map .failed

/-- The end of a survey that puts inquiries with this transcript. -/
def play (t : Transcript) (extent : Extent) (survey : Survey) :
    EStateM.Result Stop Survey Unit :=
  let after : Survey := { survey with found := survey.found ++ t.collected extent }
  match t.stop? extent with
  | some stop => .error stop after
  | none => .ok () after

theorem play_empty (extent : Extent) (survey : Survey) :
    play {} extent survey = .ok () survey := by
  cases extent <;> simp [play, collected, stop?]

theorem play_fault (f : Fault) (extent : Extent) (survey : Survey) :
    play ⟨[], some f⟩ extent survey = .error (.failed f) survey := by
  cases extent <;> simp [play, collected, stop?]

theorem play_all_of_fault {t : Transcript} {f : Fault} (h : t.fault = some f)
    (survey : Survey) :
    t.play .all survey = .error (.failed f) { survey with found := survey.found ++ t.found } := by
  obtain ⟨found, fault⟩ := t
  cases h
  rfl

/-- To play two transcripts in turn is to play the one after the other. -/
theorem play_andThen (a b : Transcript) (extent : Extent) (survey : Survey) :
    (a.andThen b).play extent survey =
      match a.play extent survey with
      | .ok _ after => b.play extent after
      | .error stop after => .error stop after := by
  obtain ⟨found, fault⟩ := a
  cases fault with
  | some f =>
    rw [andThen_of_fault rfl]
    cases extent with
    | first => cases found <;> rfl
    | all => rfl
  | none =>
    rw [andThen_of_no_fault rfl]
    cases extent with
    | first => cases found <;> simp [play, collected, stop?]
    | all => simp [play, collected, stop?]

/-- The violations that are found when all inquiries could be put, or the fault
that kept some of them from it. -/
def outcome (t : Transcript) : Except Fault Violations :=
  match t.fault with
  | some f => .error f
  | none => .ok ⟨t.found⟩

end Transcript

end RecordValidation
