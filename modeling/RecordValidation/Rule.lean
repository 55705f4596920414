import RecordValidation.Fault
import RecordValidation.Roster
import RecordValidation.Value

/-!
Rules that users of the library bring along. They are entered in a book under a
name, and annotations call them by it. A field takes the rule that stands in the
book when its record type is registered.
-/

namespace RecordValidation

/-- What a rule finds: nothing, or the message of a violation. -/
abbrev Finding := Except RuleError (Option String)

/-- A rule for fields, given the label of a field and its value. -/
abbrev Rule := String → Value → Finding

namespace Rule

def wrongKind (expected : Kind) (found : Value) : Finding :=
  .error ⟨"rule applies to " ++ expected.name ++ " fields, found " ++ found.kind.name⟩

/-- A rule from a check of texts. -/
def ofText (check : String → String → Option String) : Rule
  | label, .text s => .ok (check label s)
  | _, value => wrongKind .text value

/-- A rule from a check of whole numbers. -/
def ofInteger (check : String → Int → Option String) : Rule
  | label, .integer n => .ok (check label n)
  | _, value => wrongKind .integer value

/-- A rule from a check of floats. -/
def ofFloat (check : String → Float → Option String) : Rule
  | label, .float x => .ok (check label x)
  | _, value => wrongKind .float value

end Rule

/-- A rule for whole records, given the values of the fields. -/
abbrev RecordRule := List Value → Finding

/-- A rule with the name that it was called by. -/
structure NamedRule where
  name : String
  rule : Rule

def NamedRule.inspected (r : NamedRule) : String :=
  "BoundRule \x7b name: " ++ Quoted.encode r.name ++ " \x7d"

/-- The rules that annotations can call. -/
structure RuleBook where
  rules : Roster String Rule

namespace RuleBook

def empty : RuleBook := ⟨.empty⟩

instance : Inhabited RuleBook := ⟨empty⟩

/-- Names that no rule can have: those which would not stand for the rule in an
annotation. -/
def isReserved (name : String) : Bool :=
  name.isEmpty || (Builtin.ofName? name).isSome || '|' ∈ name.toList || ':' ∈ name.toList

/-- Enters a rule, in the place of an older one of the name. -/
def insert (book : RuleBook) (name : String) (rule : Rule) : Except Fault RuleBook :=
  if isReserved name then .error (.reservedRule name) else .ok ⟨book.rules.insert name rule⟩

def find? (book : RuleBook) (name : String) : Option Rule := book.rules.find? name

def contains (book : RuleBook) (name : String) : Bool := book.rules.contains name

/-- The names of the rules, in order. -/
def names (book : RuleBook) : List String := book.rules.keys

def size (book : RuleBook) : Nat := book.rules.size

def isEmpty (book : RuleBook) : Bool := book.rules.isEmpty

def inspected (book : RuleBook) : String :=
  "RuleSet \x7b rules: " ++ Quoted.encodeList book.names ++ " \x7d"

/-- The rule of a name, bound to it. -/
def bind? (book : RuleBook) (name : String) : Option NamedRule :=
  (book.find? name).map fun rule => ⟨name, rule⟩

end RuleBook

end RecordValidation
