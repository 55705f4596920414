/-!
Reading whole numbers. The digits are read from the left, and the first thing
that is wrong decides the answer: a text that leaves the range is too large or
too small even if no digit follows.
-/

namespace RecordValidation.Numeral

-- Powers are the core library's, whatever else is in scope.
attribute [local instance (high)] instPowNat

inductive NumeralError
  | empty
  | invalidDigit
  | tooLarge
  | tooSmall
  deriving DecidableEq, Repr

def NumeralError.message : NumeralError → String
  | .empty => "cannot parse integer from empty string"
  | .invalidDigit => "invalid digit found in string"
  | .tooLarge => "number too large to fit in target type"
  | .tooSmall => "number too small to fit in target type"

def digit? (c : Char) : Option Nat :=
  if '0' ≤ c ∧ c ≤ '9' then some (c.toNat - '0'.toNat) else none

/-- Appends digits to a number, towards the side that `sign` points to, and
keeps it between the bounds. -/
def appendDigits (low high sign : Int) : Int → List Char → Except NumeralError Int
  | n, [] => .ok n
  | n, c :: rest =>
    match digit? c with
    | none => .error .invalidDigit
    | some d =>
      let next := n * 10 + sign * d
      if high < next then .error .tooLarge
      else if next < low then .error .tooSmall
      else appendDigits low high sign next rest

/-- Reads a number between the bounds. A sign may precede the digits, but a minus
only where there are negative numbers. -/
def read (low high : Int) (text : List Char) : Except NumeralError Int :=
  match text with
  | [] => .error .empty
  | ['+'] | ['-'] => .error .invalidDigit
  | '+' :: digits => appendDigits low high 1 0 digits
  | '-' :: digits =>
    if low < 0 then appendDigits low high (-1) 0 digits else .error .invalidDigit
  | digits => appendDigits low high 1 0 digits

/-- The greatest number of elements, characters or levels. -/
def greatestCount : Nat := 2 ^ (64 : Nat) - 1

def leastInteger : Int := -2 ^ (63 : Nat)

def greatestInteger : Int := 2 ^ (63 : Nat) - 1

def count? (text : String) : Except NumeralError Nat :=
  (read 0 greatestCount text.toList).map Int.toNat

def integer? (text : String) : Except NumeralError Int :=
  read leastInteger greatestInteger text.toList

end RecordValidation.Numeral
