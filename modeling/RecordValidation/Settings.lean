import RecordValidation.Json.Reader

/-!
The settings of an inspector: what to do about rules that nobody knows, and how
deep records may be nested.
-/

namespace RecordValidation

/-- What registration does about a rule that nobody knows. -/
inductive UnknownRules
  | reject
  | ignore
  deriving DecidableEq, Repr, Inhabited

def UnknownRules.name : UnknownRules → String
  | .reject => "reject"
  | .ignore => "ignore"

def UnknownRules.ofName? (name : String) : Option UnknownRules :=
  if name = "reject" then some .reject else if name = "ignore" then some .ignore else none

/-- The policy as it is written in settings: its name, or an object whose only
member is null under that name. -/
def UnknownRules.ofJson? : Json → Option UnknownRules
  | .string (some name) => ofName? name
  | .object [(some name, .null)] => ofName? name
  | _ => none

structure Settings where
  unknownRules : UnknownRules := .reject
  maxDepth : Nat := 64
  deriving DecidableEq, Repr, Inhabited

namespace Settings

/-- Whether rules that nobody knows are refused. -/
def isStrict (s : Settings) : Bool := s.unknownRules == .reject

def toJson (s : Settings) : Json :=
  .record [("unknown_rules", .text s.unknownRules.name), ("max_depth", .count s.maxDepth)]

def ofJson? (j : Json) : Option Settings :=
  match j.fields? ["unknown_rules", "max_depth"] with
  | some [unknownRules, maxDepth] => do
    return ⟨← UnknownRules.ofJson? unknownRules, ← maxDepth.count?⟩
  | _ => none

def ofString? (text : String) : Option Settings := (Json.ofString? text).bind ofJson?

/-- Settings that are put together step by step. -/
structure Builder where
  unknownRules : Option UnknownRules := none
  maxDepth : Option Nat := none
  deriving Inhabited

namespace Builder

def withUnknownRules (b : Builder) (policy : UnknownRules) : Builder :=
  { b with unknownRules := some policy }

def strict (b : Builder) : Builder := b.withUnknownRules .reject

def lenient (b : Builder) : Builder := b.withUnknownRules .ignore

def withMaxDepth (b : Builder) (depth : Nat) : Builder := { b with maxDepth := some depth }

/-- The settings, with the defaults for what was left out. -/
def settings (b : Builder) : Settings :=
  let base : Settings := {}
  ⟨b.unknownRules.getD base.unknownRules, b.maxDepth.getD base.maxDepth⟩

end Builder

end Settings

end RecordValidation
