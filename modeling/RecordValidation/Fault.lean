import RecordValidation.Annotation
import RecordValidation.Numeral
import RecordValidation.Pattern.Expr
import RecordValidation.Shape

/-!
Faults: what is wrong with the use of the library, as opposed to violations,
which are what is wrong with a record. A fault ends registration or checking.
-/

namespace RecordValidation

/-- The failure of a rule that was applied where it makes no sense. -/
structure RuleError where
  message : String
  deriving DecidableEq, Repr

/-- What the rules of one level of an annotation are applied to. -/
inductive Station
  | scalar (s : Scalar)
  | sequence
  | pointer
  | record
  deriving DecidableEq, Repr

def Station.name : Station → String
  | .scalar s => s.kind.name
  | .sequence => Kind.sequence.name
  | .pointer => "pointer"
  | .record => Kind.record.name

/-- Why a token is not well formed. -/
inductive Malformed
  | takesNoArgument
  | repeated
  | argumentMissing
  | notWhole (e : Numeral.NumeralError)
  | notDecimal
  | notFinite
  | customWithArgument
  | beyondRecord
  deriving DecidableEq, Repr

def Malformed.message : Malformed → String
  | .takesNoArgument => "takes no argument"
  | .repeated => "duplicate rule"
  | .argumentMissing => "missing argument"
  | .notWhole e => e.message
  | .notDecimal => "invalid float literal"
  | .notFinite => "bound must be a finite number"
  | .customWithArgument => "custom rules take no argument"
  | .beyondRecord => "record fields take no rules after dive"

/-- Why a token is refused. -/
inductive TokenFault
  | unknown
  | unsupported (station : Station)
  | malformed (reason : Malformed)
  | pattern (e : Pattern.PatternError)
  deriving DecidableEq, Repr

/-- The reason as messages give it. What is wrong with a pattern is not told. -/
def TokenFault.message : TokenFault → String
  | .unknown => "unknown rule"
  | .unsupported station => "not supported on " ++ station.name ++ " fields"
  | .malformed reason => reason.message
  | .pattern _ => "<regex error>"

inductive Fault
  | notRecord (found : String)
  | notRegistered (name : String)
  | alreadyRegistered (name : String)
  | reservedRule (name : String)
  | registration (model field : String) (token : Token) (cause : TokenFault)
  | rule (field name : String) (source : RuleError)
  | recordRule (model : String) (source : RuleError)
  | mismatch (field : String) (expected found : Kind)
  | foreignRecord (field model : String)
  | tooDeep (field : String) (limit : Nat)
  deriving DecidableEq, Repr

def Fault.message : Fault → String
  | .notRecord found => "only records can be validated, found " ++ found
  | .notRegistered name => name ++ " is not registered"
  | .alreadyRegistered name => name ++ " is already registered"
  | .reservedRule name => "rule name `" ++ name ++ "` is reserved"
  | .registration model field token cause =>
    "model registration error (" ++ model ++ "." ++ field ++ " `" ++ token.text ++ "`): " ++
      cause.message
  | .rule field name source => field ++ ": rule `" ++ name ++ "` failed: " ++ source.message
  | .recordRule model source => model ++ ": record validator failed: " ++ source.message
  | .mismatch field expected found =>
    field ++ ": expected a " ++ expected.name ++ " value, found " ++ found.name
  | .foreignRecord field model =>
    field ++ ": expected a " ++ model ++ " value, found another record type"
  | .tooDeep field limit =>
    field ++ ": records nested deeper than " ++ toString limit ++ " levels"

end RecordValidation
