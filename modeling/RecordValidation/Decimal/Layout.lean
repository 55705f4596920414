import RecordValidation.Decimal.Shortest

/-!
Writing floats. The digits are always the fewest that read back; a layout says
where the point goes and when an exponent is used.
-/

namespace RecordValidation.Decimal

-- Powers are the core library's, whatever else is in scope.
attribute [local instance (high)] instPowNat

/-- How floats are laid out: what is added to whole numbers, and where exponents
are used. A float is `0.ddd` times a power of ten; an exponent is used where that
power is at most `smallFrom` or greater than `plainTo`. -/
structure Layout where
  wholeMark : String
  smallFrom : Option Int
  plainTo : Option Int

/-- The digits with the point after the first `point` of them, which may be
outside of the digits on either side. -/
def Layout.plain (l : Layout) (digits : List Char) (point : Int) : String :=
  if point ≤ 0 then
    "0." ++ String.ofList (List.replicate (-point).toNat '0' ++ digits)
  else if (digits.length : Int) ≤ point then
    String.ofList (digits ++ List.replicate (point.toNat - digits.length) '0') ++ l.wholeMark
  else
    String.ofList (digits.take point.toNat) ++ "." ++ String.ofList (digits.drop point.toNat)

/-- One digit before the point, and the power of ten. -/
def scientific (digits : List Char) (point : Int) : String :=
  let fraction := if digits.length ≤ 1 then [] else '.' :: digits.drop 1
  String.ofList (digits.take 1 ++ fraction) ++ "e" ++ toString (point - 1)

/-- Digits without the zeros at their end. -/
def stripZeros (digits : List Char) : List Char :=
  (digits.reverse.dropWhile (· = '0')).reverse

def Layout.magnitude (l : Layout) (x : Float) : String :=
  if x == 0.0 then "0" ++ l.wholeMark
  else
    let d := shortest x
    let all := Nat.toDigits 10 d.digits
    let point := all.length + d.exponent
    let digits := stripZeros all
    let small := l.smallFrom.any (point ≤ ·)
    let large := l.plainTo.any (· < point)
    if small || large then scientific digits point else l.plain digits point

def Layout.write (l : Layout) (x : Float) : String :=
  if x.isNaN then "NaN"
  else
    let sign := if x.toBits.toNat / 2 ^ (63 : Nat) = 1 then "-" else ""
    if x.isInf then sign ++ "inf" else sign ++ l.magnitude x

/-- Bounds in messages are written out in full, and whole ones as whole numbers. -/
def boundLayout : Layout := ⟨"", none, none⟩

/-- Values under inspection show that they are floats, and take an exponent
from ten to the 16th on and below ten to the minus 4th. -/
def valueLayout : Layout := ⟨".0", some (-4), some 16⟩

end RecordValidation.Decimal
