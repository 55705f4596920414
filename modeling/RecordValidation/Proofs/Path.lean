import RecordValidation.Proofs.Inquiry

/-!
Labels read back. A label shows the names of fields with dots between them, and the
indices of elements in brackets behind the name they belong to. As long as no name has
dots or brackets in it, the place that a label shows can be read off the label.
-/

namespace RecordValidation

/-- Names that a label can not be misread for. -/
structure PlainName (name : String) : Prop where
  dot : '.' ∉ name.toList
  opening : '[' ∉ name.toList
  closing : ']' ∉ name.toList

namespace Place

/-- The places that are reached from the root by plain names and by indices. The root
is a record, so it has no elements. -/
inductive Plain : Place → Prop
  | root : Plain .root
  | field {outer : Place} {name : String} (h : Plain outer) (hname : PlainName name) :
      Plain (.field outer name)
  | element {outer : Place} (h : Plain outer) (hne : outer ≠ .root) (index : Nat) :
      Plain (.element outer index)

/-- Reads an index and the bracket behind it. -/
def readIndex? (part : List Char) : Option Nat :=
  let digits := part.dropLast
  if part.getLast? = some ']' ∧ digits ≠ [] ∧ digits.all Char.isDigit then
    some (Nat.ofDigitChars 10 digits 0)
  else none

/-- Reads the name of a field and the indices behind it. -/
def readPiece? (outer : Place) (piece : List Char) : Option Place :=
  match pieces '[' piece with
  | [] => none
  | name :: parts =>
    parts.foldlM (fun place part => (readIndex? part).map place.element)
      (outer.field (String.ofList name))

/-- The place that a label shows. -/
def read? (label : String) : Option Place :=
  (pieces '.' label.toList).foldlM readPiece? .root

/-- The index and the closing bracket of an element. -/
def indexChars (index : Nat) : List Char := Nat.toDigits 10 index ++ [']']

theorem isDigit_toDigits (index : Nat) : ∀ c ∈ Nat.toDigits 10 index, c.isDigit = true :=
  fun _ hc => Nat.isDigit_of_mem_toDigits (by decide) (by decide) hc

theorem not_mem_indexChars {c : Char} (hdigit : c.isDigit = false) (hc : c ≠ ']') (index : Nat) :
    c ∉ indexChars index := by
  intro hmem
  rcases List.mem_append.mp hmem with h | h
  · have := isDigit_toDigits index c h
    rw [hdigit] at this
    cases this
  · exact hc (List.mem_singleton.mp h)

theorem readIndex?_indexChars (index : Nat) : readIndex? (indexChars index) = some index := by
  have hdigits : (Nat.toDigits 10 index).all Char.isDigit = true :=
    List.all_eq_true.mpr (isDigit_toDigits index)
  have hne : Nat.toDigits 10 index ≠ [] := Nat.toDigits_ne_nil
  unfold readIndex? indexChars
  rw [List.dropLast_concat, List.getLast?_concat, if_pos ⟨rfl, hne, hdigits⟩,
    Nat.ofDigitChars_ten_toDigits]

theorem readPiece?_name {name : String} (hname : PlainName name) (outer : Place) :
    readPiece? outer name.toList = some (outer.field name) := by
  rw [readPiece?, pieces_of_not_mem hname.opening]
  dsimp only
  rw [String.ofList_toList]
  rfl

/-- An index behind a piece leads from the place of the piece to an element of it. -/
theorem readPiece?_index (outer : Place) (piece : List Char) (index : Nat) :
    readPiece? outer (piece ++ '[' :: indexChars index) =
      (readPiece? outer piece).map (.element · index) := by
  obtain ⟨before, last, hpiece⟩ := exists_pieces_eq '[' piece
  have hindex : pieces '[' ('[' :: indexChars index) = [] :: [indexChars index] := by
    rw [pieces_cons_self, pieces_of_not_mem (not_mem_indexChars (by decide) (by decide) index)]
  have happend : pieces '[' (piece ++ '[' :: indexChars index) =
      pieces '[' piece ++ [indexChars index] := by
    rw [pieces_append hpiece hindex, hpiece, List.append_nil, List.append_assoc]
    rfl
  rw [readPiece?, readPiece?, happend]
  cases hpieces : pieces '[' piece with
  | nil => exact absurd hpieces (pieces_ne_nil '[' piece)
  | cons name parts =>
    rw [List.cons_append]
    dsimp only
    rw [List.foldlM_append]
    cases parts.foldlM (fun place part => (readIndex? part).map place.element)
        (outer.field (String.ofList name)) with
    | none => rfl
    | some place =>
      show [indexChars index].foldlM (fun place part => (readIndex? part).map place.element)
        place = some (place.element index)
      rw [List.foldlM_cons, readIndex?_indexChars]
      rfl

theorem read?_name {name : String} (hname : PlainName name) :
    read? name = some (root.field name) := by
  rw [read?, pieces_of_not_mem hname.dot, List.foldlM_cons, readPiece?_name hname]
  rfl

/-- A name behind a dot leads from the place of a label to a field of it. -/
theorem read?_field {name : String} (hname : PlainName name) (label : String) :
    read? (Scope.fieldLabel (some label) name) = (read? label).map (.field · name) := by
  obtain ⟨before, last, hlabel⟩ := exists_pieces_eq '.' label.toList
  have hfield : pieces '.' ('.' :: name.toList) = [] :: [name.toList] := by
    rw [pieces_cons_self, pieces_of_not_mem hname.dot]
  have happend : pieces '.' (Scope.fieldLabel (some label) name).toList =
      pieces '.' label.toList ++ [name.toList] := by
    have hchars : (Scope.fieldLabel (some label) name).toList =
        label.toList ++ '.' :: name.toList := by
      simp [Scope.fieldLabel]
    rw [hchars, pieces_append hlabel hfield, hlabel, List.append_nil, List.append_assoc]
    rfl
  rw [read?, read?, happend, List.foldlM_append]
  cases (pieces '.' label.toList).foldlM readPiece? root with
  | none => rfl
  | some place =>
    show [name.toList].foldlM readPiece? place = some (place.field name)
    rw [List.foldlM_cons, readPiece?_name hname]
    rfl

/-- An index behind a label leads from the place of the label to an element of it. -/
theorem read?_element (label : String) (index : Nat) :
    read? (Scope.elementLabel label index) = (read? label).map (.element · index) := by
  obtain ⟨before, last, hlabel⟩ := exists_pieces_eq '.' label.toList
  have hindex : '.' ∉ '[' :: indexChars index := by
    rw [List.mem_cons, not_or]
    exact ⟨by decide, not_mem_indexChars (by decide) (by decide) index⟩
  have hchars : (Scope.elementLabel label index).toList =
      label.toList ++ '[' :: indexChars index := by
    simp [Scope.elementLabel, indexChars]
  rw [read?, read?, hchars, pieces_append hlabel (pieces_of_not_mem hindex), hlabel,
    List.foldlM_append, List.foldlM_append]
  cases before.foldlM readPiece? root with
  | none => rfl
  | some place =>
    show [last ++ '[' :: indexChars index].foldlM readPiece? place =
      ([last].foldlM readPiece? place).map _
    rw [List.foldlM_cons, List.foldlM_cons, readPiece?_index]
    cases readPiece? place last <;> rfl

theorem path?_eq_none_iff {place : Place} : place.path? = none ↔ place = .root := by
  cases place <;> simp [path?]

/-- The label of a plain place shows this place. -/
theorem Plain.read?_label {place : Place} (h : place.Plain) {label : String}
    (hlabel : place.path? = some label) : read? label = some place := by
  induction h generalizing label with
  | root => cases hlabel
  | @field outer name houter hname ih =>
    cases hlabel
    cases hpath : outer.path? with
    | none =>
      rw [path?_eq_none_iff] at hpath
      subst hpath
      exact read?_name hname
    | some outerLabel =>
      rw [read?_field hname, ih hpath]
      rfl
  | @element outer houter hne index ih =>
    cases hpath : outer.path? with
    | none => exact absurd (path?_eq_none_iff.mp hpath) hne
    | some outerLabel =>
      rw [path?_element hpath] at hlabel
      cases hlabel
      rw [read?_element, ih hpath]
      rfl

/-- Different plain places never have the same label. -/
theorem Plain.eq_of_path?_eq {place place' : Place} (h : place.Plain) (h' : place'.Plain)
    (heq : place.path? = place'.path?) : place = place' := by
  cases hpath : place.path? with
  | none =>
    have hpath' : place'.path? = none := by rw [← heq, hpath]
    rw [path?_eq_none_iff.mp hpath, path?_eq_none_iff.mp hpath']
  | some label =>
    have hpath' : place'.path? = some label := by rw [← heq, hpath]
    have hread := h.read?_label hpath
    rw [h'.read?_label hpath'] at hread
    exact (Option.some.inj hread).symm

end Place

end RecordValidation
