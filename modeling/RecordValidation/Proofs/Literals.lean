import RecordValidation.Proofs.Level

/-!
Whole numbers as they are written. A literal is a row of decimal digits, with a sign in front
of it or without one, and any number of zeros may come first. The reader of numerals gets the
value of a literal if the value is in range, and reads no other text.
-/

namespace RecordValidation.Numeral

/-- What may stand in front of the digits. -/
inductive Sign
  | none
  | plus
  | minus
  deriving DecidableEq, Repr

namespace Sign

def chars : Sign → List Char
  | none => []
  | plus => ['+']
  | minus => ['-']

theorem eq_of_mem_chars {sign : Sign} {c : Char} (h : c ∈ sign.chars) : c = '+' ∨ c = '-' := by
  cases sign with
  | none => cases h
  | plus => exact .inl (List.mem_singleton.mp h)
  | minus => exact .inr (List.mem_singleton.mp h)

/-- The side of zero that the digits lead to. -/
def side : Sign → Int
  | none | plus => 1
  | minus => -1

theorem side_eq (sign : Sign) : sign.side = 1 ∨ sign.side = -1 := by
  cases sign <;> decide

end Sign

structure Literal where
  sign : Sign
  digits : List Char
  digits_ne : digits ≠ []
  all_isDigit : digits.all Char.isDigit = true

namespace Literal

variable (l : Literal)

def chars : List Char := l.sign.chars ++ l.digits

def text : String := String.ofList l.chars

/-- The number that is written, whatever its size. -/
def value : Int := l.sign.side * Nat.ofDigitChars 10 l.digits 0

theorem isDigit_of_mem : ∀ c ∈ l.digits, c.isDigit = true := List.all_eq_true.mp l.all_isDigit

theorem toList_text : l.text.toList = l.chars := String.toList_ofList

theorem chars_ne_nil : l.chars ≠ [] := List.append_ne_nil_of_right_ne_nil _ l.digits_ne

theorem isDigit_or_sign_of_mem {c : Char} (h : c ∈ l.chars) :
    c.isDigit = true ∨ c = '+' ∨ c = '-' := by
  rcases List.mem_append.mp h with hsign | hdigit
  · exact .inr (Sign.eq_of_mem_chars hsign)
  · exact .inl (l.isDigit_of_mem c hdigit)

end Literal

theorem digit?_eq_some_iff {c : Char} {d : Nat} :
    digit? c = some d ↔ c.isDigit = true ∧ d = c.toNat - '0'.toNat := by
  have hdigit : ('0' ≤ c ∧ c ≤ '9') ↔ c.isDigit = true := by
    rw [Char.isDigit, Bool.and_eq_true, decide_eq_true_eq, decide_eq_true_eq]
    rfl
  rw [digit?]
  split
  · next h => simp [hdigit.mp h, eq_comm]
  · next h => simp [mt hdigit.mpr h]

theorem le_ofDigitChars (m : Nat) (cs : List Char) : m ≤ Nat.ofDigitChars 10 cs m := by
  induction cs generalizing m with
  | nil => exact Nat.le_refl m
  | cons c rest ih =>
    rw [Nat.ofDigitChars_cons]
    have hrest := ih (10 * m + (c.toNat - '0'.toNat))
    omega

section

variable {low high sign : Int}

/-- Digits lead away from zero. So the number so far, `m` on the side of the sign, is out of
range only if the whole number is. -/
theorem appendDigits_eq_ok_iff (hsign : sign = 1 ∨ sign = -1) {m : Nat}
    (hm : low ≤ sign * m ∧ sign * m ≤ high) {cs : List Char} {n : Int} :
    appendDigits low high sign (sign * m) cs = .ok n ↔
      (∀ c ∈ cs, c.isDigit = true) ∧ n = sign * Nat.ofDigitChars 10 cs m ∧
        low ≤ n ∧ n ≤ high := by
  induction cs generalizing m with
  | nil =>
    rw [appendDigits, Nat.ofDigitChars_nil]
    constructor
    · rintro h
      cases h
      exact ⟨nofun, rfl, hm⟩
    · rintro ⟨-, rfl, -⟩
      rfl
  | cons c rest ih =>
    rw [appendDigits, List.forall_mem_cons]
    cases hd : digit? c with
    | none =>
      constructor
      · nofun
      · rintro ⟨⟨hc, -⟩, -⟩
        rw [digit?_eq_some_iff.mpr ⟨hc, rfl⟩] at hd
        cases hd
    | some d =>
      obtain ⟨hc, rfl⟩ := digit?_eq_some_iff.mp hd
      rw [Nat.ofDigitChars_cons]
      generalize c.toNat - '0'.toNat = d
      have hnext : sign * m * 10 + sign * d = sign * (10 * m + d : Nat) := by
        push_cast
        ring
      have hwhole := le_ofDigitChars (10 * m + d) rest
      dsimp only
      rw [hnext]
      by_cases hrange : low ≤ sign * (10 * m + d : Nat) ∧ sign * (10 * m + d : Nat) ≤ high
      · rw [if_neg (by omega), if_neg (by omega), ih hrange]
        simp only [hc, true_and]
      · -- The digits to come can not lead back into the range.
        constructor
        · intro h
          split_ifs at h
          omega
        · rintro ⟨-, rfl, hn⟩
          rcases hsign with rfl | rfl <;> omega

theorem appendDigits_zero_eq_ok_iff (hsign : sign = 1 ∨ sign = -1) (hlow : low ≤ 0)
    (hhigh : 0 ≤ high) {cs : List Char} {n : Int} :
    appendDigits low high sign 0 cs = .ok n ↔
      (∀ c ∈ cs, c.isDigit = true) ∧ n = sign * Nat.ofDigitChars 10 cs 0 ∧
        low ≤ n ∧ n ≤ high := by
  have hzero : sign * (0 : Nat) = 0 := mul_zero sign
  rw [← appendDigits_eq_ok_iff hsign (by omega), hzero]

theorem read_unsigned {c : Char} (hplus : c ≠ '+') (hminus : c ≠ '-') (rest : List Char) :
    read low high (c :: rest) = appendDigits low high 1 0 (c :: rest) := by
  rw [read]
  all_goals simp [hplus, hminus]

theorem read_plus (c : Char) (rest : List Char) :
    read low high ('+' :: c :: rest) = appendDigits low high 1 0 (c :: rest) := rfl

theorem read_minus (hlow : low < 0) (c : Char) (rest : List Char) :
    read low high ('-' :: c :: rest) = appendDigits low high (-1) 0 (c :: rest) :=
  if_pos hlow

/-- A literal is read by its digits, towards the side of its sign. -/
theorem Literal.read_chars (hlow : low < 0) (l : Literal) :
    read low high l.chars = appendDigits low high l.sign.side 0 l.digits := by
  obtain ⟨sign, digits, hne, hall⟩ := l
  obtain ⟨c, rest, rfl⟩ := List.exists_cons_of_ne_nil hne
  have hc : c.isDigit = true := List.all_eq_true.mp hall c List.mem_cons_self
  cases sign with
  | none => exact read_unsigned (by rintro rfl; cases hc) (by rintro rfl; cases hc) rest
  | plus => exact read_plus c rest
  | minus => exact read_minus hlow c rest

/-- A text that is read is cut into a sign and digits. -/
theorem exists_sign_of_read_eq_ok (hlow : low < 0) {text : List Char} {n : Int}
    (h : read low high text = .ok n) :
    ∃ (sign : Sign) (digits : List Char), digits ≠ [] ∧ sign.chars ++ digits = text ∧
      appendDigits low high sign.side 0 digits = .ok n := by
  cases text with
  | nil => cases h
  | cons c rest =>
    by_cases hplus : c = '+'
    · subst hplus
      cases rest with
      | nil => cases h
      | cons d rest => exact ⟨.plus, d :: rest, List.cons_ne_nil d rest, rfl, h⟩
    by_cases hminus : c = '-'
    · subst hminus
      cases rest with
      | nil => cases h
      | cons d rest =>
        rw [read_minus hlow] at h
        exact ⟨.minus, d :: rest, List.cons_ne_nil d rest, rfl, h⟩
    rw [read_unsigned hplus hminus] at h
    exact ⟨.none, c :: rest, List.cons_ne_nil c rest, rfl, h⟩

theorem read_eq_ok_iff (hlow : low < 0) (hhigh : 0 ≤ high) {text : List Char} {n : Int} :
    read low high text = .ok n ↔
      ∃ l : Literal, l.chars = text ∧ l.value = n ∧ low ≤ n ∧ n ≤ high := by
  constructor
  · intro h
    obtain ⟨sign, digits, hne, rfl, happend⟩ := exists_sign_of_read_eq_ok hlow h
    obtain ⟨hdigits, rfl, hrange⟩ :=
      (appendDigits_zero_eq_ok_iff sign.side_eq hlow.le hhigh).mp happend
    exact ⟨⟨sign, digits, hne, List.all_eq_true.mpr hdigits⟩, rfl, rfl, hrange⟩
  · rintro ⟨l, rfl, rfl, hrange⟩
    rw [l.read_chars hlow, appendDigits_zero_eq_ok_iff l.sign.side_eq hlow.le hhigh]
    exact ⟨l.isDigit_of_mem, rfl, hrange⟩

end

/-- Exactly the literals whose value is in range are read, and as their value. -/
theorem integer?_eq_ok_iff {text : String} {n : Int} :
    integer? text = .ok n ↔
      ∃ l : Literal, l.text = text ∧ l.value = n ∧ leastInteger ≤ n ∧ n ≤ greatestInteger := by
  have htext (l : Literal) : l.chars = text.toList ↔ l.text = text := by
    rw [← l.toList_text, String.toList_inj]
  rw [integer?, read_eq_ok_iff (by decide) (by decide)]
  simp only [htext]

/-- A literal whose value is out of range is not read at all. -/
theorem Literal.integer?_text_eq_ok_iff {l : Literal} {n : Int} :
    integer? l.text = .ok n ↔ l.value = n ∧ leastInteger ≤ n ∧ n ≤ greatestInteger := by
  rw [integer?, l.toList_text, l.read_chars (by decide),
    appendDigits_zero_eq_ok_iff l.sign.side_eq (by decide) (by decide), eq_comm (a := n)]
  exact and_iff_right l.isDigit_of_mem

end RecordValidation.Numeral
