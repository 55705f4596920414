import RecordValidation.Proofs.Enrolment
import RecordValidation.Proofs.Transcript

/-!
The interpreter reads annotations while it goes through a record. It has no
segments and no constraints: at each value it looks its rules up among the tokens
themselves. What it finds is what annotations are meant to ask for, and compiled
annotations are to be measured by it.
-/

namespace RecordValidation

open Annotation

/-- What a test has to say against a value, if its argument can be read. -/
def objection {γ : Type} (bound? : Option γ) (fails : γ → Bool) (text : γ → String) :
    Option String :=
  (bound?.filter fails).map text

/-- The items of a list in an argument. -/
def Token.items (arg : String) : List String := (pieces ',' arg.toList).map String.ofList

/-- The message with which a value fails a built-in rule that has a given argument.
Values that a rule does not apply to never fail it. -/
def Value.complaint (now : Instant) : Value → Builtin → String → Option String
  | .text s, .greatest, arg => objection (Numeral.count? arg).toOption (· < s.length)
      fun bound => "can not be longer than " ++ toString bound ++ " characters"
  | .text s, .least, arg => objection (Numeral.count? arg).toOption (s.length < ·)
      fun bound => "must be at least " ++ toString bound ++ " characters"
  | .text s, .pattern, arg => objection (Pattern.ofString? arg).toOption (!·.isMatch s)
      fun p => "must match regex /" ++ p.text ++ "/"
  | .text s, .member, arg => objection (some (Token.items arg)) (!·.contains s)
      fun items => "must be in [" ++ ", ".intercalate items ++ "]"
  | .integer n, .greatest, arg => objection (Numeral.integer? arg).toOption (· < n)
      fun bound => "can not be greater than " ++ toString bound
  | .integer n, .least, arg => objection (Numeral.integer? arg).toOption (n < ·)
      fun bound => "must be at least " ++ toString bound
  | .integer n, .member, arg =>
    objection ((Token.items arg).mapM fun item => (Numeral.integer? item).toOption)
      (!·.contains n) fun items =>
        "must be in [" ++ ", ".intercalate (items.map toString) ++ "]"
  | .float x, .greatest, arg =>
    objection ((Decimal.read? arg).filter (·.isFinite)) (fun bound => bound < x || x.isNaN)
      fun bound => "can not be greater than " ++ Decimal.boundLayout.write bound
  | .float x, .least, arg =>
    objection ((Decimal.read? arg).filter (·.isFinite)) (fun bound => x < bound || x.isNaN)
      fun bound => "must be at least " ++ Decimal.boundLayout.write bound
  | .time t, .greatest, arg => objection (Numeral.integer? arg).toOption (· < t.ageAt now)
      fun bound => "can not have age greater than " ++ toString bound ++ " seconds"
  | .time t, .least, arg => objection (Numeral.integer? arg).toOption (t.ageAt now < ·)
      fun bound => "must have age at least " ++ toString bound ++ " seconds"
  | .sequence items, .greatest, arg =>
    objection (Numeral.count? arg).toOption (· < items.length)
      fun bound => "can not have more than " ++ toString bound ++ " elements"
  | .sequence items, .least, arg =>
    objection (Numeral.count? arg).toOption (items.length < ·)
      fun bound => "must have at least " ++ toString bound ++ " elements"
  | _, _, _ => none

/-- The transcript of a finding. -/
def Transcript.ofFinding (v : String → Violation) (f : RuleError → Fault) :
    Finding → Transcript
  | .ok none => {}
  | .ok (some message) => ⟨[v message], none⟩
  | .error source => ⟨[], some (f source)⟩

/-- What the interpreter knows: the types that were enrolled, how deep it may go,
and the time. -/
structure Interpreter where
  enrolments : Enrolments
  limit : Nat
  now : Instant

namespace Interpreter

/-- What is reported for an absent value. -/
def absent (label : String) (tokens : List Token) : Transcript :=
  if tokens.any (·.is .required) then ⟨[.required label], none⟩ else {}

/-- The custom rules among tokens, in the order of these. -/
def custom (lex : Lexicon) (label : String) (value : Value) : List Token → Transcript
  | [] => {}
  | t :: rest =>
    let first : Transcript :=
      match Builtin.ofName? t.name, lex.rules.find? t.name with
      | none, some rule =>
        .ofFinding (⟨label, ·, t.name⟩) (.rule label t.name) (rule label value)
      | _, _ => {}
    first.andThen (custom lex label value rest)

/-- The violations of built-in rules. Their order is not that of the tokens. -/
def builtin (r : Interpreter) (label : String) (value : Value) (tokens : List Token) :
    Transcript :=
  ⟨[Builtin.greatest, .least, .pattern, .member].flatMap fun b =>
    (ruleArgument? (value.complaint r.now b) b tokens).toList.map fun text =>
      ⟨label, label ++ " " ++ text, b.name⟩, none⟩

/-- The rules of a level, for a present value. -/
def level (r : Interpreter) (lex : Lexicon) (label : String) (value : Value)
    (tokens : List Token) : Transcript :=
  (r.builtin label value tokens).andThen (custom lex label value tokens)

/-- The way into a record by the enrolment of its type. -/
def enter (r : Interpreter) (path : Option String) (tag : TypeTag) (depth : Nat)
    (body : Enrolment → Transcript) : Transcript :=
  match r.enrolments.find? tag with
  | none => ⟨[], some (.notRegistered tag.name)⟩
  | some e =>
    if r.limit ≤ depth then ⟨[], some (.tooDeep (path.getD tag.name) r.limit)⟩ else body e

/-- The rules for whole records. -/
def recordRules (path : Option String) (tag : TypeTag) (fields : List Value) :
    List RecordRule → Transcript
  | [] => {}
  | rule :: rest =>
    (Transcript.ofFinding (⟨path.getD tag.name, ·, Violation.recordCode⟩)
      (.recordRule tag.name) (rule fields)).andThen (recordRules path tag fields rest)

mutual

/-- Reads the tokens of a field or element at its value. Within an optional, the
zero of a kind is a value like any other. -/
def read (r : Interpreter) (lex : Lexicon) : Shape → List Token → Bool → String → Nat → Value →
    Transcript
  | shape, tokens, _, label, depth, .just inner =>
    match shape with
    | .optional shape =>
      match shape.core, splitDive tokens with
      | .scalar _, (head, some tail) =>
        (custom lex label (.just inner) head).andThen
          (r.read lex shape tail false label depth inner)
      | _, _ => r.read lex shape tokens true label depth inner
    | _ => {}
  | shape, tokens, _, label, _, .null =>
    if shape.core = .inert then {} else absent label (splitDive tokens).1
  | shape, tokens, _, label, depth, .sequence items =>
    match shape with
    | .sequence element =>
      match splitDive tokens with
      | (head, some tail) =>
        (r.level lex label (.sequence items) head).andThen
          (r.readElements lex element tail label 0 depth items)
      | (head, none) => r.level lex label (.sequence items) head
    | _ => {}
  | shape, tokens, _, label, depth, .record tag fields =>
    match shape with
    | .record _ =>
      (custom lex label (.record tag fields) (splitDive tokens).1).andThen
        (r.enter (some label) tag depth fun e =>
          (r.readFields e.lexicon (some label) (depth + 1) fields e.type.fields).andThen
            (recordRules (some label) tag fields e.recordRules))
    | _ => {}
  | shape, tokens, nullable, label, _, value =>
    match shape with
    | .scalar _ =>
      if value.isZero && !nullable then absent label tokens else r.level lex label value tokens
    | _ => {}

/-- Reads the tokens of elements at each of them, from an index on. -/
def readElements (r : Interpreter) (lex : Lexicon) : Shape → List Token → String → Nat → Nat →
    List Value → Transcript
  | _, _, _, _, _, [] => {}
  | shape, tokens, label, index, depth, item :: rest =>
    (r.read lex shape tokens false (Scope.elementLabel label index) depth item).andThen
      (r.readElements lex shape tokens label (index + 1) depth rest)

/-- Reads the annotations of fields in the order in which they are declared. -/
def readFields (r : Interpreter) (lex : Lexicon) : Option String → Nat → List Value →
    List FieldDecl → Transcript
  | _, _, [], _ => {}
  | _, _, _ :: _, [] => {}
  | path, depth, value :: values, decl :: decls =>
    let first : Transcript :=
      match decl with
      | .skipped _ => {}
      | .checked name type rules =>
        if rules = "" then {}
        else r.read lex type.shape (tokens rules) false (Scope.fieldLabel path name)
          depth value
    first.andThen (r.readFields lex path depth values decls)

end

/-- Reads the annotations of a record that stands in no other. -/
def readRecord (r : Interpreter) (record : Record) : Transcript :=
  r.enter none record.tag 0 fun e =>
    (r.readFields e.lexicon none 1 record.fields e.type.fields).andThen
      (recordRules none record.tag record.fields e.recordRules)

end Interpreter

end RecordValidation
