import RecordValidation.Segment

/-!
Constraints: compiled annotations. An annotation is compiled along the shape of
its field, one segment for each level that its dives lead to.
-/

namespace RecordValidation

/-- The rules of a scalar. -/
inductive ScalarConstraint
  | text (s : Segment Nat String)
  | integer (s : Segment Int Int)
  | float (s : Segment Float Empty)
  | time (s : Segment Int Empty)

/-- The rules of a field or element. A pointer is an optional scalar whose rules
tell the optional from what it holds. -/
inductive Constraint
  | unchecked
  | scalar (target : ScalarConstraint)
  | pointer (head : Segment Empty Empty) (target : ScalarConstraint)
  | sequence (head : Segment Nat Empty) (element : Constraint)
  | record (head : Segment Empty Empty)

namespace ScalarConstraint

def kind : ScalarConstraint → Kind
  | .text _ => .text
  | .integer _ => .integer
  | .float _ => .float
  | .time _ => .time

def required : ScalarConstraint → Bool
  | .text s => s.required
  | .integer s => s.required
  | .float s => s.required
  | .time s => s.required

def compile (lex : Lexicon) (tokens : List Token) :
    Scalar → Except BadToken ScalarConstraint
  | .text => (Segment.compile .text lex tokens).map .text
  | .integer => (Segment.compile .whole lex tokens).map .integer
  | .float => (Segment.compile .float lex tokens).map .float
  | .time => (Segment.compile .time lex tokens).map .time

end ScalarConstraint

namespace Constraint

def isUnchecked : Constraint → Bool
  | .unchecked => true
  | _ => false

/-- The rules of a pointer: those before the first dive, then those after it. -/
def compilePointer (lex : Lexicon) (target : Scalar) (tokens : List Token) :
    Except BadToken Constraint := do
  let (head, tail) := Annotation.splitDive tokens
  let head ← Segment.compile .pointer lex head
  return .pointer head (← ScalarConstraint.compile lex (tail.getD []) target)

/-- The rules of a record. Those of its fields are with its own type, so none may
follow a dive. -/
def compileRecord (lex : Lexicon) (tokens : List Token) : Except BadToken Constraint :=
  match Annotation.splitDive tokens with
  | (_, some (t :: _)) => .error ⟨t, .malformed .beyondRecord⟩
  | (head, _) => (Segment.compile .record lex head).map .record

/-- Compiles the tokens for a shape. Optional layers make no difference but for
scalars with a dive, and rules on what can not be checked are left out. -/
def compile (lex : Lexicon) : Shape → List Token → Except BadToken Constraint
  | .scalar s, tokens => (ScalarConstraint.compile lex tokens s).map .scalar
  | .optional inner, tokens =>
    match inner.core.scalar? with
    | some s =>
      if tokens.any Token.isDive then compilePointer lex s tokens else compile lex inner tokens
    | none => compile lex inner tokens
  | .sequence element, tokens => do
    let (head, tail) := Annotation.splitDive tokens
    let head ← Segment.compile .sequence lex head
    match tail with
    | some tail => return .sequence head (← compile lex element tail)
    | none => return .sequence head .unchecked
  | .record _, tokens => compileRecord lex tokens
  | .inert, _ => .ok .unchecked

/-- Compiles the annotation of a field. An empty one asks for nothing, whatever
the shape is. -/
def ofAnnotation (lex : Lexicon) (shape : Shape) (text : String) :
    Except BadToken Constraint :=
  match Annotation.tokens text with
  | [] => .ok .unchecked
  | tokens => compile lex shape tokens

end Constraint

end RecordValidation
