/-!
The types of fields. A field type says how the data is stored; its shape keeps
only what rules depend on.
-/

namespace RecordValidation

/-- The kinds that values and shapes are told apart by. -/
inductive Kind
  | text
  | integer
  | float
  | time
  | optional
  | sequence
  | record
  | inert
  deriving DecidableEq, Repr

def Kind.name : Kind → String
  | .text => "text"
  | .integer => "integer"
  | .float => "float"
  | .time => "time"
  | .optional => "optional"
  | .sequence => "sequence"
  | .record => "record"
  | .inert => "opaque"

/-- The identity of a record type. Different types may share a name; the serial
number tells them apart. -/
structure TypeTag where
  serial : Nat
  name : String
  deriving DecidableEq, Repr

inductive Scalar
  | text
  | integer
  | float
  | time
  deriving DecidableEq, Repr

def Scalar.kind : Scalar → Kind
  | .text => .text
  | .integer => .integer
  | .float => .float
  | .time => .time

inductive Shape
  | scalar (s : Scalar)
  | optional (inner : Shape)
  | sequence (element : Shape)
  | record (tag : TypeTag)
  | inert
  deriving DecidableEq, Repr

namespace Shape

def kind : Shape → Kind
  | .scalar s => s.kind
  | .optional _ => .optional
  | .sequence _ => .sequence
  | .record _ => .record
  | .inert => .inert

/-- The scalar that a shape is. -/
def scalar? : Shape → Option Scalar
  | .scalar s => some s
  | _ => none

/-- The shape without the optional layers around it. -/
def core : Shape → Shape
  | .optional inner => inner.core
  | shape => shape

theorem core_optional (inner : Shape) : (Shape.optional inner).core = inner.core := rfl

theorem core_core (shape : Shape) : shape.core.core = shape.core := by
  induction shape with
  | optional inner ih => exact ih
  | scalar _ | sequence _ _ | record _ | inert => rfl

end Shape

/-- The formats of stored whole numbers. -/
inductive IntegerFormat
  | signed (bits : Nat)
  | unsigned (bits : Nat)
  deriving DecidableEq, Repr

inductive FloatFormat
  | single
  | double
  deriving DecidableEq, Repr

/-- How a field is stored. A box holds one value of its own and changes nothing
else; sequences of fixed and of variable length are alike. -/
inductive FieldType
  | text
  | integer (format : IntegerFormat)
  | float (format : FloatFormat)
  | time
  | flag
  | option (inner : FieldType)
  | boxed (inner : FieldType)
  | sequence (element : FieldType)
  | record (tag : TypeTag)
  deriving DecidableEq, Repr

def FieldType.shape : FieldType → Shape
  | .text => .scalar .text
  | .integer _ => .scalar .integer
  | .float _ => .scalar .float
  | .time => .scalar .time
  | .flag => .inert
  | .option inner => .optional inner.shape
  | .boxed inner => inner.shape
  | .sequence element => .sequence element.shape
  | .record tag => .record tag

end RecordValidation
