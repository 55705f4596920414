import RecordValidation.Json
import RecordValidation.Character.Table

/-!
Reading JSON text. Nothing but blanks may stand around the one value of a text.
-/

namespace RecordValidation.Json

def isBlank (c : Char) : Bool := c ∈ [' ', '\n', '\t', '\r']

def skipBlanks (text : List Char) : List Char := text.dropWhile isBlank

/-- Four hexadecimal digits. -/
def readUnit? (text : List Char) : Option (Nat × List Char) :=
  let digits := text.take 4
  if digits.length = 4 && digits.all (fun c => (Table.hexDigit? c).isSome) then
    some (Table.hexNumber digits, text.drop 4)
  else none

/-- What an escape stands for: a character, or a 16-bit unit. -/
def readEscape? : List Char → Option ((Char ⊕ Nat) × List Char)
  | '"' :: rest => some (.inl '"', rest)
  | '\\' :: rest => some (.inl '\\', rest)
  | '/' :: rest => some (.inl '/', rest)
  | 'b' :: rest => some (.inl '\x08', rest)
  | 'f' :: rest => some (.inl '\x0c', rest)
  | 'n' :: rest => some (.inl '\n', rest)
  | 'r' :: rest => some (.inl '\r', rest)
  | 't' :: rest => some (.inl '\t', rest)
  | 'u' :: rest => (readUnit? rest).map fun (unit, left) => (.inr unit, left)
  | _ => none

/-- The characters of a string up to its closing quote, with escapes as what
they stand for. -/
def readUnits? : Nat → List Char → Option (List (Char ⊕ Nat) × List Char)
  | 0, _ => none
  | _, [] => none
  | fuel + 1, c :: rest =>
    if c = '"' then some ([], rest)
    else if c = '\\' then do
      let (unit, left) ← readEscape? rest
      let (units, left) ← readUnits? fuel left
      return (unit :: units, left)
    else if c.toNat < 0x20 then none
    else do
      let (units, left) ← readUnits? fuel rest
      return (.inl c :: units, left)

/-- Puts surrogate pairs together. There is no text for half a pair. -/
def decodeUnits : List (Char ⊕ Nat) → Option (List Char)
  | [] => some []
  | .inl c :: rest => (decodeUnits rest).map (c :: ·)
  | .inr high :: rest =>
    if high < 0xd800 || 0xdfff < high then (decodeUnits rest).map (Char.ofNat high :: ·)
    else
      match rest with
      | .inr low :: rest =>
        if high < 0xdc00 && 0xdc00 ≤ low && low ≤ 0xdfff then
          let code := 0x10000 + (high - 0xd800) * 0x400 + (low - 0xdc00)
          (decodeUnits rest).map (Char.ofNat code :: ·)
        else none
      | _ => none

def readString? (text : List Char) : Option (Option String × List Char) :=
  (readUnits? (text.length + 1) text).map fun (units, left) =>
    ((decodeUnits units).map String.ofList, left)

def takeDigits (text : List Char) : List Char × List Char :=
  (text.takeWhile Char.isDigit, text.dropWhile Char.isDigit)

/-- The part of a number after a sign: where it is a whole number, that number.
Zero begins no longer number, and a point or exponent has digits after it. -/
def readUnsigned? (text : List Char) : Option (Option Nat × List Char) := do
  let (whole, rest) := takeDigits text
  if whole.isEmpty || (whole.head? = some '0' && 1 < whole.length) then none
  let (plain, rest) ←
    match rest with
    | '.' :: rest =>
      let (fraction, rest) := takeDigits rest
      if fraction.isEmpty then none else some (false, rest)
    | rest => some (true, rest)
  let (plain, rest) ←
    match rest with
    | e :: more =>
      if e = 'e' ∨ e = 'E' then
        let (digits, left) :=
          match more with
          | '+' :: more | '-' :: more => takeDigits more
          | more => takeDigits more
        if digits.isEmpty then none else some (false, left)
      else some (plain, rest)
    | [] => some (plain, rest)
  let number := whole.foldl (fun n c => n * 10 + (c.toNat - '0'.toNat)) 0
  return (if plain then some number else none, rest)

/-- A number. Minus zero is not a whole number. -/
def readNumber? (text : List Char) : Option (Json × List Char) :=
  match text with
  | '-' :: rest =>
    (readUnsigned? rest).map fun (whole, left) =>
      let negated := whole.bind fun n => if n = 0 then none else some (-(n : Int))
      (.number negated, left)
  | text => (readUnsigned? text).map fun (whole, left) => (.number (whole.map Int.ofNat), left)

mutual

/-- A value at the start of a text. The fuel bounds how many values and members
there are, which is less than the number of characters. -/
def readValue? : Nat → List Char → Option (Json × List Char)
  | 0, _ => none
  | fuel + 1, text =>
    match skipBlanks text with
    | 'n' :: 'u' :: 'l' :: 'l' :: rest => some (.null, rest)
    | 't' :: 'r' :: 'u' :: 'e' :: rest => some (.bool true, rest)
    | 'f' :: 'a' :: 'l' :: 's' :: 'e' :: rest => some (.bool false, rest)
    | '"' :: rest => (readString? rest).map fun (s, left) => (.string s, left)
    | '[' :: rest =>
      match skipBlanks rest with
      | ']' :: left => some (.array [], left)
      | rest => (readItems? fuel rest).map fun (items, left) => (.array items, left)
    | '\x7b' :: rest =>
      match skipBlanks rest with
      | '\x7d' :: left => some (.object [], left)
      | rest => (readMembers? fuel rest).map fun (members, left) => (.object members, left)
    | rest => readNumber? rest

/-- The items of an array, of which there is at least one. -/
def readItems? : Nat → List Char → Option (List Json × List Char)
  | 0, _ => none
  | fuel + 1, text => do
    let (item, left) ← readValue? fuel text
    match skipBlanks left with
    | ',' :: rest => do
      let (items, left) ← readItems? fuel rest
      return (item :: items, left)
    | ']' :: left => return ([item], left)
    | _ => none

/-- The members of an object, of which there is at least one. -/
def readMembers? : Nat → List Char → Option (List (Option String × Json) × List Char)
  | 0, _ => none
  | fuel + 1, text =>
    match skipBlanks text with
    | '"' :: rest => do
      let (name, left) ← readString? rest
      match skipBlanks left with
      | ':' :: rest => do
        let (value, left) ← readValue? fuel rest
        match skipBlanks left with
        | ',' :: rest => do
          let (members, left) ← readMembers? fuel rest
          return ((name, value) :: members, left)
        | '\x7d' :: left => return ([(name, value)], left)
        | _ => none
      | _ => none
    | _ => none

end

/-- Reads a text that is one JSON value. -/
def ofString? (text : String) : Option Json :=
  match readValue? (text.length + 2) text.toList with
  | some (value, rest) => if (skipBlanks rest).isEmpty then some value else none
  | none => none

end RecordValidation.Json
