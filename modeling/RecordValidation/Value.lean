import RecordValidation.Decimal.Layout
import RecordValidation.Instant
import RecordValidation.Numeral
import RecordValidation.Quoted
import RecordValidation.Shape

/-!
Values as rules see them, and the data that they are read from. Reading data as a
value forgets how it is stored: boxes disappear, and whole numbers and floats
come in one width each.
-/

namespace RecordValidation

inductive Value
  | text (s : String)
  | integer (n : Int)
  | float (x : Float)
  | time (t : Instant)
  | null
  | just (inner : Value)
  | sequence (items : List Value)
  | record (tag : TypeTag) (fields : List Value)
  | inert
  deriving Inhabited

namespace Value

def kind : Value → Kind
  | .text _ => .text
  | .integer _ => .integer
  | .float _ => .float
  | .time _ => .time
  | .null | .just _ => .optional
  | .sequence _ => .sequence
  | .record _ _ => .record
  | .inert => .inert

/-- Whether a value is the one that stands for nothing in its kind. Times do until
the first second of 1970 is over; sequences and records never do. -/
def isZero : Value → Bool
  | .text s => s.isEmpty
  | .integer n => n == 0
  | .float x => x == 0.0
  | .time t => t.seconds ≤ 0
  | .null => true
  | .just _ | .sequence _ | .record _ _ | .inert => false

def text? : Value → Option String
  | .text s => some s
  | _ => none

def integer? : Value → Option Int
  | .integer n => some n
  | _ => none

def float? : Value → Option Float
  | .float x => some x
  | _ => none

/-- The fields of a record of the given type. -/
def recordOf? (tag : TypeTag) : Value → Option (List Value)
  | .record t fields => if t = tag then some fields else none
  | _ => none

/-- The text of a value under inspection. It names the kind, and shows what a
scalar or an optional holds. -/
def inspected : Value → String
  | .text s => "Text(" ++ Quoted.encode s ++ ")"
  | .integer n => "Int(" ++ toString n ++ ")"
  | .float x => "Float(" ++ Decimal.valueLayout.write x ++ ")"
  | .time t => "Time(" ++ t.text ++ ")"
  | .null => "Optional(None)"
  | .just inner => "Optional(Some(" ++ inner.inspected ++ "))"
  | .sequence items => "Seq \x7b len: " ++ toString items.length ++ " \x7d"
  | .record tag _ => "Record \x7b name: " ++ Quoted.encode tag.name ++ " \x7d"
  | .inert => "Opaque"

end Value

/-- The value that is there to be checked, within any number of optional layers.
In a nullable place the zero of a kind is a value like any other; elsewhere it
means that nothing is there. -/
def Value.present? (nullable : Bool) : Value → Option Value
  | .null => none
  | .just inner => inner.present? true
  | value => if !nullable && value.isZero then none else some value

/-- Data as it is stored. -/
inductive Datum
  | text (s : String)
  | integer (n : Int)
  | single (x : Float32)
  | double (x : Float)
  | time (t : Instant)
  | flag (b : Bool)
  | none
  | some (inner : Datum)
  | boxed (inner : Datum)
  | sequence (items : List Datum)
  | record (tag : TypeTag) (fields : List Datum)
  deriving Inhabited

/-- Reads stored data as a value. Whole numbers beyond the greatest that values
tell apart are read as that one. -/
def Datum.view : Datum → Value
  | .text s => .text s
  | .integer n => .integer (min n Numeral.greatestInteger)
  | .single x => .float x.toFloat
  | .double x => .float x
  | .time t => .time t
  | .flag _ => .inert
  | .none => .null
  | .some inner => .just inner.view
  | .boxed inner => inner.view
  | .sequence items => .sequence (views items)
  | .record tag fields => .record tag (views fields)
where
  views : List Datum → List Value
    | [] => []
    | d :: rest => d.view :: views rest

end RecordValidation
