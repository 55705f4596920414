import RecordValidation.Character.Set
import RecordValidation.Pieces

/-!
The written form of character tables. A table is one text of items divided by
spaces and line ends, with numbers in hexadecimal. There are three kinds of item:
an interval `41-5a`, a run `20:Cc` that gives the next so many code points a
value, and a family `41-4a:20` of characters that lie at fixed distances.
-/

namespace RecordValidation.Table

def hexDigit? (c : Char) : Option Nat :=
  if '0' ≤ c ∧ c ≤ '9' then some (c.toNat - '0'.toNat)
  else if 'a' ≤ c ∧ c ≤ 'f' then some (c.toNat - 'a'.toNat + 10)
  else if 'A' ≤ c ∧ c ≤ 'F' then some (c.toNat - 'A'.toNat + 10)
  else none

/-- Reads hexadecimal digits, most significant first. -/
def hexNumber (digits : List Char) : Nat :=
  digits.foldl (fun n c => n * 16 + (hexDigit? c).getD 0) 0

def items (text : String) : List (List Char) :=
  (pieces ' ' (text.toList.map fun c => if c = '\n' then ' ' else c)).filter (!·.isEmpty)

/-- An interval `first-last`, or a single number. -/
def interval (item : List Char) : Nat × Nat :=
  match cut '-' item with
  | (first, none) => (hexNumber first, hexNumber first)
  | (first, some last) => (hexNumber first, hexNumber last)

def intervals (text : String) : CharSet := .ofRanges ((items text).map interval)

/-- An interval of code points that share a value. -/
structure Run where
  first : Nat
  last : Nat
  value : String
  deriving Inhabited

/-- Runs follow each other without a gap from code point 0. -/
def runsFrom (start : Nat) : List (List Char) → List Run
  | [] => []
  | item :: rest =>
    let (length, value) := cut ':' item
    let next := start + hexNumber length
    ⟨start, next - 1, String.ofList (value.getD [])⟩ :: runsFrom next rest

def runs (text : String) : List Run := runsFrom 0 (items text)

/-- The code points whose value passes the test. -/
def select (table : List Run) (accepts : String → Bool) : CharSet :=
  .ofRanges ((table.filter fun r => accepts r.value).map fun r => (r.first, r.last))

/-- The families `first-last/step:distance,distance`: each start, by the step
(1 unless given), heads a family of itself and the characters at the distances. -/
def family (item : List Char) : List (List Nat) :=
  let (starts, distances) := cut ':' item
  let (range, step) := cut '/' starts
  let (first, last) := interval range
  let step := hexNumber (step.getD ['1'])
  let offsets := (pieces ',' (distances.getD [])).map hexNumber
  (List.range ((last - first) / step + 1)).map fun i =>
    let head := first + i * step
    head :: offsets.map (head + ·)

def families (text : String) : List (List Nat) := (items text).flatMap family

end RecordValidation.Table
