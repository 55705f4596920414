import RecordValidation.Constraint

/-!
Record types and their blueprints. A record type declares its fields with their
annotations; its blueprint has them compiled.
-/

namespace RecordValidation

/-- A declared field. One that is skipped is never looked at. -/
inductive FieldDecl
  | checked (name : String) (type : FieldType) (rules : String)
  | skipped (name : String)
  deriving DecidableEq, Repr

def FieldDecl.name : FieldDecl → String
  | .checked name _ _ => name
  | .skipped name => name

structure RecordType where
  tag : TypeTag
  fields : List FieldDecl
  deriving DecidableEq, Repr

/-- The label of a record type by the full name of its definition: what comes
before arguments in angle brackets, without the path to it. -/
def RecordType.label (fullName : String) : String :=
  let rec upToPath : List Char → List Char
    | ':' :: ':' :: _ => []
    | c :: rest => c :: upToPath rest
    | [] => []
  let base := fullName.toList.takeWhile (· ≠ '<')
  String.ofList (upToPath base.reverse).reverse

/-- A compiled field, which is read from records of the type that owns it. -/
structure FieldPlan where
  owner : TypeTag
  name : String
  constraint : Constraint

/-- A rule for the records of one type. -/
structure OwnedRule where
  owner : TypeTag
  rule : RecordRule

def OwnedRule.apply (r : OwnedRule) (tag : TypeTag) (fields : List Value) : Finding :=
  if tag = r.owner then r.rule fields
  else .error ⟨"expected a " ++ r.owner.name ++ " record"⟩

/-- What records of a type are checked against. -/
structure Blueprint where
  name : String
  fields : List FieldPlan
  recordRules : List OwnedRule

namespace Blueprint

def compileField (lex : Lexicon) (owner : TypeTag) : FieldDecl → Except Fault FieldPlan
  | .skipped name => .ok ⟨owner, name, .unchecked⟩
  | .checked name type rules =>
    match Constraint.ofAnnotation lex type.shape rules with
    | .ok constraint => .ok ⟨owner, name, constraint⟩
    | .error bad => .error (.registration owner.name name bad.token bad.cause)

def compileFields (lex : Lexicon) (owner : TypeTag) :
    List FieldDecl → Except Fault (List FieldPlan)
  | [] => .ok []
  | decl :: rest => do
    let plan ← compileField lex owner decl
    return plan :: (← compileFields lex owner rest)

/-- The blueprint of a record type, as yet without record rules. -/
def ofType (lex : Lexicon) (t : RecordType) : Except Fault Blueprint := do
  return ⟨t.tag.name, ← compileFields lex t.tag t.fields, []⟩

def fieldNames (b : Blueprint) : List String := b.fields.map (·.name)

def addRecordRule (b : Blueprint) (r : OwnedRule) : Blueprint :=
  { b with recordRules := b.recordRules ++ [r] }

def inspected (b : Blueprint) : String :=
  "Model \x7b name: " ++ Quoted.encode b.name ++ ", fields: " ++
    Quoted.encodeList b.fieldNames ++ ", record_rules: " ++ toString b.recordRules.length ++
    " \x7d"

end Blueprint

end RecordValidation
