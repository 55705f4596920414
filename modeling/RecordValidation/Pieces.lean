/-!
Cutting text at a separator. A text with `n` separators has `n + 1` pieces, and
its pieces with the separators between them are the text again.
-/

namespace RecordValidation

/-- The parts of a text between its separators. -/
def pieces (separator : Char) : List Char → List (List Char)
  | [] => [[]]
  | c :: rest =>
    match pieces separator rest with
    | [] => [[c]]
    | first :: others =>
      if c = separator then [] :: first :: others else (c :: first) :: others

/-- The text before the first separator and, if there is one, the text after it. -/
def cut (separator : Char) : List Char → List Char × Option (List Char)
  | [] => ([], none)
  | c :: rest =>
    if c = separator then ([], some rest)
    else
      let (before, after) := cut separator rest
      (c :: before, after)

/-- Pieces with a separator between any two. -/
def glue (separator : Char) : List (List Char) → List Char
  | [] => []
  | [piece] => piece
  | piece :: rest => piece ++ separator :: glue separator rest

theorem pieces_ne_nil (separator : Char) (text : List Char) : pieces separator text ≠ [] := by
  cases text with
  | nil => simp [pieces]
  | cons c rest =>
    rw [pieces]
    split
    · simp
    · split <;> simp

theorem glue_pieces (separator : Char) (text : List Char) :
    glue separator (pieces separator text) = text := by
  induction text with
  | nil => rfl
  | cons c rest ih =>
    rw [pieces]
    split
    · next h => exact absurd h (pieces_ne_nil separator rest)
    · next first others h =>
      rw [h] at ih
      split
      · next hc =>
        subst hc
        simp [glue, ih]
      · cases others with
        | nil => simpa [glue] using ih
        | cons second others => simpa [glue] using ih

theorem pieces_cons_self (separator : Char) (rest : List Char) :
    pieces separator (separator :: rest) = [] :: pieces separator rest := by
  rw [pieces]
  split
  · next h => exact absurd h (pieces_ne_nil separator rest)
  · next h => rw [if_pos rfl, h]

theorem pieces_cons_of_ne {separator c : Char} (hne : c ≠ separator) {rest first : List Char}
    {others : List (List Char)} (h : pieces separator rest = first :: others) :
    pieces separator (c :: rest) = (c :: first) :: others := by
  rw [pieces, h]
  exact if_neg hne

theorem pieces_of_not_mem {separator : Char} {text : List Char} (h : separator ∉ text) :
    pieces separator text = [text] := by
  induction text with
  | nil => rfl
  | cons c rest ih =>
    rw [List.mem_cons, not_or] at h
    exact pieces_cons_of_ne (Ne.symm h.1) (ih h.2)

theorem cut_of_not_mem {separator : Char} {text : List Char} (h : separator ∉ text) :
    cut separator text = (text, none) := by
  induction text with
  | nil => rfl
  | cons c rest ih =>
    rw [List.mem_cons, not_or] at h
    rw [cut, if_neg (Ne.symm h.1), ih h.2]

theorem exists_pieces_eq (separator : Char) (text : List Char) :
    ∃ before last, pieces separator text = before ++ [last] := by
  obtain ⟨before, last, h⟩ :=
    (List.eq_nil_or_concat (pieces separator text)).resolve_left (pieces_ne_nil separator text)
  exact ⟨before, last, by rw [h, List.concat_eq_append]⟩

/-- The last piece of one text and the first of another one become one piece. -/
theorem pieces_append {separator : Char} {a b last first : List Char}
    {before after : List (List Char)} (ha : pieces separator a = before ++ [last])
    (hb : pieces separator b = first :: after) :
    pieces separator (a ++ b) = before ++ (last ++ first) :: after := by
  induction a generalizing before last with
  | nil =>
    obtain ⟨rfl, rfl⟩ : before = [] ∧ last = [] := by
      cases before with
      | nil => exact ⟨rfl, (List.cons.inj ha).1.symm⟩
      | cons piece before => cases before <;> cases ha
    exact hb
  | cons c rest ih =>
    obtain ⟨before', last', hrest⟩ := exists_pieces_eq separator rest
    rw [List.cons_append]
    by_cases hc : c = separator
    · subst hc
      have hcons : pieces c (c :: rest) = ([] :: before') ++ [last'] := by
        rw [pieces_cons_self, hrest, List.cons_append]
      rw [hcons] at ha
      obtain ⟨rfl, hlast⟩ := List.append_inj' ha rfl
      cases hlast
      rw [pieces_cons_self, ih hrest, List.cons_append]
    · cases before' with
      | nil =>
        have hcons : pieces separator (c :: rest) = [] ++ [c :: last'] := pieces_cons_of_ne hc hrest
        rw [hcons] at ha
        obtain ⟨rfl, hlast⟩ := List.append_inj' ha rfl
        cases hlast
        have hrest' := ih hrest
        exact pieces_cons_of_ne hc hrest'
      | cons piece before' =>
        have hcons : pieces separator (c :: rest) = ((c :: piece) :: before') ++ [last'] :=
          pieces_cons_of_ne hc hrest
        rw [hcons] at ha
        obtain ⟨rfl, hlast⟩ := List.append_inj' ha rfl
        cases hlast
        have hrest' := ih hrest
        exact pieces_cons_of_ne hc hrest'

end RecordValidation
