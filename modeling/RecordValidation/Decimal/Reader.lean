/-!
Reading decimal numbers as floats. A number has digits on at least one side of
its point, if it has one, and may have an exponent; the names of infinity and of
what is no number are read in any case.
-/

namespace RecordValidation.Decimal

/-- A decimal as it is written: the digits without their point, and the power
of ten that scales them. -/
structure Written where
  digits : List Char
  exponent : Int

/-- The digits at the start of a text, and what follows them. -/
def takeDigits (text : List Char) : List Char × List Char :=
  (text.takeWhile Char.isDigit, text.dropWhile Char.isDigit)

def naturalOf (digits : List Char) : Nat :=
  digits.foldl (fun n c => n * 10 + (c.toNat - '0'.toNat)) 0

/-- An exponent, which is a signed whole number that ends the text. -/
def exponent? (text : List Char) : Option Int :=
  let (negative, digits) :=
    match text with
    | '-' :: rest => (true, rest)
    | '+' :: rest => (false, rest)
    | rest => (false, rest)
  if digits.isEmpty || !digits.all Char.isDigit then none
  else some (if negative then -(naturalOf digits) else naturalOf digits)

/-- A number without its sign. -/
def written? (text : List Char) : Option Written :=
  let (whole, rest) := takeDigits text
  let (fraction, rest) :=
    match rest with
    | '.' :: rest => takeDigits rest
    | rest => ([], rest)
  if whole.isEmpty && fraction.isEmpty then none
  else
    let digits := whole ++ fraction
    match rest with
    | [] => some ⟨digits, -fraction.length⟩
    | e :: rest =>
      if e = 'e' ∨ e = 'E' then
        (exponent? rest).map fun exponent => ⟨digits, exponent - fraction.length⟩
      else none

/-- The float nearest to a decimal. Decimals far beyond the range of floats are
infinite or zero whatever their digits are. -/
def Written.toFloat (w : Written) : Float :=
  let significant := w.digits.dropWhile (· = '0')
  let magnitude := w.exponent + significant.length
  if significant.isEmpty || magnitude < -400 then 0.0
  else if 400 < magnitude then 1.0 / 0.0
  else Float.ofScientific (naturalOf significant) (w.exponent < 0) w.exponent.natAbs

def unsigned? (text : List Char) : Option Float :=
  let name := String.ofList (text.map Char.toLower)
  if name = "inf" ∨ name = "infinity" then some (1.0 / 0.0)
  else if name = "nan" then some (0.0 / 0.0)
  else (written? text).map Written.toFloat

/-- Reads a float, with or without a sign. -/
def read? (text : String) : Option Float :=
  match text.toList with
  | '-' :: rest => (unsigned? rest).map Float.neg
  | '+' :: rest => unsigned? rest
  | rest => unsigned? rest

end RecordValidation.Decimal
