/-!
JSON values as they are read and written. Objects keep their members in order,
repeated names included, since whether a name may come twice is for the reader
of an object to say.
-/

namespace RecordValidation

-- Powers are the core library's, whatever else is in scope.
attribute [local instance (high)] instPowNat

/-- A JSON value. A string is missing where its escapes name half of a surrogate
pair; such a string is allowed only where nobody looks at it. A number is kept
only if it is written as a whole number. -/
inductive Json
  | null
  | bool (b : Bool)
  | number (whole : Option Int)
  | string (s : Option String)
  | array (items : List Json)
  | object (members : List (Option String × Json))
  deriving Inhabited

namespace Json

def text (s : String) : Json := .string (some s)

def count (n : Nat) : Json := .number (some n)

def record (members : List (String × Json)) : Json :=
  .object (members.map fun m => (some m.1, m.2))

def string? : Json → Option String
  | .string s => s
  | _ => none

/-- A whole number from 0 to the greatest of 64 bits. -/
def count? : Json → Option Nat
  | .number (some (.ofNat n)) => if n < 2 ^ (64 : Nat) then some n else none
  | _ => none

/-- The only member of a name. -/
def single? (name : String) (members : List (Option String × Json)) : Option Json :=
  match members.filter (·.1 == some name) with
  | [member] => some member.2
  | _ => none

/-- The fields of a record with the given names. It is written as an object,
which may have other members too but each of these once, or as an array that has
just these values in order. -/
def fields? (names : List String) : Json → Option (List Json)
  | .object members =>
    if members.any (·.1.isNone) then none else names.mapM (single? · members)
  | .array items => if items.length = names.length then some items else none
  | _ => none

end Json

end RecordValidation
