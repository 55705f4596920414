/-!
The fewest decimal digits that read back as a float. A float stands for all
reals that round to it; among the decimals of a number of digits only the two
neighbours of the float can lie in that interval, so the first number of digits
that has a hit gives the answer.
-/

namespace RecordValidation.Decimal

-- Powers are the core library's, whatever else is in scope.
attribute [local instance (high)] instPowNat

/-- A positive real interval with a point in it, all over one denominator. The
ends belong to it if `closed`. -/
structure Cell where
  low : Nat
  value : Nat
  high : Nat
  denominator : Nat
  closed : Bool

/-- The reals that round to `mantissa * 2 ^ exponent`. Below a power of two the
floats lie half as far apart, so the lower end is nearer where `narrow` says that
this is so. -/
def cell (mantissa : Nat) (exponent : Int) (narrow : Bool) : Cell :=
  let scale := 2 ^ exponent.toNat
  { low := (4 * mantissa - if narrow then 1 else 2) * scale
    value := 4 * mantissa * scale
    high := (4 * mantissa + 2) * scale
    denominator := 4 * 2 ^ (-exponent).toNat
    closed := mantissa % 2 == 0 }

/-- A decimal `digits * 10 ^ exponent`. -/
structure Digits where
  digits : Nat
  exponent : Int
  deriving DecidableEq, Repr

/-- Whether a decimal lies in a cell. -/
def Cell.holds (c : Cell) (d : Digits) : Bool :=
  let up := 10 ^ d.exponent.toNat
  let down := 10 ^ (-d.exponent).toNat
  let point := d.digits * up * c.denominator
  if c.closed then c.low * down ≤ point && point ≤ c.high * down
  else c.low * down < point && point < c.high * down

/-- The greatest multiple of a power of ten that is not above the value. -/
def Cell.floorAt (c : Cell) (exponent : Int) : Nat :=
  c.value * 10 ^ (-exponent).toNat / (c.denominator * 10 ^ exponent.toNat)

/-- Whether the value is at least as far from one multiple of a power of ten as
from the next. -/
def Cell.roundsUp (c : Cell) (exponent : Int) : Bool :=
  let point := c.value * 10 ^ (-exponent).toNat
  let unit := c.denominator * 10 ^ exponent.toNat
  unit ≤ 2 * (point % unit)

/-- The multiple of a power of ten in the cell that is nearest to its value. Of
two that are equally near the greater is taken. -/
def Cell.pick? (c : Cell) (exponent : Int) : Option Digits :=
  let below : Digits := ⟨c.floorAt exponent, exponent⟩
  let above : Digits := ⟨c.floorAt exponent + 1, exponent⟩
  match c.holds below, c.holds above with
  | true, true => some (if c.roundsUp exponent then above else below)
  | true, false => some below
  | false, true => some above
  | false, false => none

/-- The exponent `p` with the value between `10 ^ (p - 1)` and `10 ^ p`. The
scale makes even the least float a whole number of many digits. -/
def Cell.magnitude (c : Cell) : Int :=
  let scale : Nat := 400
  ((Nat.toDigits 10 (c.value * 10 ^ scale / c.denominator)).length : Int) - scale

/-- Tries one digit more each time. -/
def Cell.search (c : Cell) (exponent : Int) : Nat → Digits
  | 0 => ⟨c.floorAt exponent, exponent⟩
  | tries + 1 => (c.pick? exponent).getD (c.search (exponent - 1) tries)

/-- Seventeen digits tell any two floats apart. -/
def Cell.shortest (c : Cell) : Digits := c.search (c.magnitude - 1) 17

/-- The shortest digits of a finite float other than zero, without its sign. -/
def shortest (x : Float) : Digits :=
  let bits := x.toBits.toNat
  let fraction := bits % 2 ^ (52 : Nat)
  let exponent : Nat := bits / 2 ^ (52 : Nat) % 2 ^ (11 : Nat)
  if exponent = 0 then (cell fraction (-1074) false).shortest
  else
    (cell (2 ^ (52 : Nat) + fraction) ((exponent : Int) - 1075)
      (fraction = 0 && 1 < exponent)).shortest

end RecordValidation.Decimal
