import RecordValidation.Json.Reader
import RecordValidation.Numeral

/-!
Violations: what is wrong with a record that was checked. They are reported to
the caller, and are no faults of the program that checks.
-/

namespace RecordValidation

/-- A check that failed: the path of the value, a message that names the path,
and the code of the check. -/
structure Violation where
  field : String
  message : String
  code : String
  deriving DecidableEq, Repr, Inhabited

namespace Violation

/-- The codes of the checks that come with the library. -/
def requiredCode : String := "required"

def greatestCode : String := "max"

def leastCode : String := "min"

def patternCode : String := "regex"

def memberCode : String := "in"

def recordCode : String := "record"

def required (field : String) : Violation := ⟨field, field ++ " is required", requiredCode⟩

/-- The text between the last closing bracket and the opening one before it. -/
def lastBrackets? (path : List Char) : Option (List Char) :=
  match path.reverse.dropWhile (· ≠ ']') with
  | [] => none
  | _ :: before =>
    if '[' ∈ before then some (before.takeWhile (· ≠ '[')).reverse else none

/-- The index of the innermost sequence element on the path. -/
def index? (v : Violation) : Option Nat := do
  let digits ← lastBrackets? v.field.toList
  (Numeral.count? (String.ofList digits)).toOption

def toJson (v : Violation) : Json :=
  .record [("field", .text v.field), ("message", .text v.message), ("code", .text v.code)]

def ofJson? (j : Json) : Option Violation :=
  match j.fields? ["field", "message", "code"] with
  | some [field, message, code] => do return ⟨← field.string?, ← message.string?, ← code.string?⟩
  | _ => none

end Violation

/-- Violations in the order in which the checks ran. -/
structure Violations where
  items : List Violation
  deriving DecidableEq, Repr, Inhabited

namespace Violations

def empty : Violations := ⟨[]⟩

def push (vs : Violations) (v : Violation) : Violations := ⟨vs.items ++ [v]⟩

def isEmpty (vs : Violations) : Bool := vs.items.isEmpty

def length (vs : Violations) : Nat := vs.items.length

def first? (vs : Violations) : Option Violation := vs.items.head?

def messages (vs : Violations) : List String := vs.items.map (·.message)

/-- The violations of a path, and of no longer one. -/
def forField (vs : Violations) (field : String) : List Violation :=
  vs.items.filter (·.field == field)

def hasField (vs : Violations) (field : String) : Bool := !(vs.forField field).isEmpty

/-- A summary of the messages, one on each line. -/
def summary (vs : Violations) : String :=
  if vs.isEmpty then "No violations"
  else
    toString vs.length ++ " violation(s):" ++
      String.join (vs.messages.map fun message => "\n  " ++ message)

/-- The answer that a service gives for a record with violations. -/
def report (vs : Violations) : Json :=
  .record [("error", .record
    [("code", .text "validation_failed"), ("message", .text "Validation failed"),
     ("violations", .array (vs.items.map Violation.toJson))])]

def toJson (vs : Violations) : Json :=
  .record [("items", .array (vs.items.map Violation.toJson))]

def ofJson? (j : Json) : Option Violations :=
  match j.fields? ["items"] with
  | some [.array items] => (items.mapM Violation.ofJson?).map Violations.mk
  | _ => none

theorem items_push (vs : Violations) (v : Violation) : (vs.push v).items = vs.items ++ [v] := rfl

theorem first?_eq_none_iff (vs : Violations) : vs.first? = none ↔ vs.isEmpty = true := by
  cases vs with
  | mk items => cases items <;> simp [first?, isEmpty]

end Violations

end RecordValidation
