import RecordValidation.Rule

/-!
Rules that are given by data: a test on values, and the message for those that
it finds. The message is a template with places for the label, the kind and the
text of a value.
-/

namespace RecordValidation

/-- A test on values. Values of a kind that it is not about pass. -/
inductive Probe.Test
  | always
  | never
  | fails
  | zero
  | textHas (part : String)
  | textLonger (length : Int)
  | odd
  | integerAbove (bound : Int)
  | floatAbove (bound : Float)
  | notANumber
  | recordOf (tag : TypeTag)

/-- How a test is made into a rule: for all values, or for those of one kind. -/
inductive Probe.Adapter
  | raw
  | text
  | integer
  | float
  deriving DecidableEq, Repr

structure Probe where
  test : Probe.Test
  template : String

namespace Probe

/-- Whether a list is a part of another. -/
def isPart (part : List Char) : List Char → Bool
  | [] => part.isEmpty
  | c :: rest => part.isPrefixOf (c :: rest) || isPart part rest

/-- Replaces each occurrence of a text in another, from the left. The number says
how many of the next characters belong to the last occurrence. -/
def replaceFrom (old new : List Char) : Nat → List Char → List Char
  | _, [] => []
  | inside + 1, _ :: rest => replaceFrom old new inside rest
  | 0, c :: rest =>
    if old.isPrefixOf (c :: rest) then new ++ replaceFrom old new (old.length - 1) rest
    else c :: replaceFrom old new 0 rest

/-- Fills one place of a template. -/
def fill (place value template : String) : String :=
  String.ofList (replaceFrom place.toList value.toList 0 template.toList)

/-- The message for a value. The places are filled one after another, so what
fills an earlier one may hold a later one. -/
def message (p : Probe) (label : String) (value : Value) : String :=
  fill "\x7bvalue\x7d" value.inspected
    (fill "\x7bkind\x7d" value.kind.name (fill "\x7bfield\x7d" label p.template))

def Test.finds : Test → Value → Bool
  | .always, _ => true
  | .never, _ | .fails, _ => false
  | .zero, value => value.isZero
  | .textHas part, .text s => isPart part.toList s.toList
  | .textLonger length, .text s => length < s.length
  | .odd, .integer n => n % 2 != 0
  | .integerAbove bound, .integer n => bound < n
  | .floatAbove bound, .float x => bound < x
  | .notANumber, .float x => x.isNaN
  | .recordOf tag, value => (value.recordOf? tag).isSome
  | _, _ => false

def finding? (p : Probe) (label : String) (value : Value) : Option String :=
  if p.test.finds value then some (p.message label value) else none

/-- The rule of a probe. A test that fails answers with an error, which only a
rule for all values can do. -/
def rule (p : Probe) : Adapter → Rule
  | .raw => fun label value =>
    match p.test with
    | .fails => .error ⟨p.message label value⟩
    | _ => .ok (p.finding? label value)
  | .text => .ofText fun label s => p.finding? label (.text s)
  | .integer => .ofInteger fun label n => p.finding? label (.integer n)
  | .float => .ofFloat fun label x => p.finding? label (.float x)

end Probe

/-- A test on records, by the places of their fields. -/
inductive RecordProbe.Test
  | always
  | never
  | fails
  | integerAbove (field other : Nat)
  | textIs (field : Nat) (text : String)

structure RecordProbe where
  test : RecordProbe.Test
  message : String

namespace RecordProbe

def Test.finds (fields : List Value) : Test → Bool
  | .always => true
  | .never | .fails => false
  | .integerAbove field other =>
    match fields[field]?, fields[other]? with
    | some (.integer m), some (.integer n) => n < m
    | _, _ => false
  | .textIs field text => (fields[field]?.bind Value.text?) == some text

def rule (p : RecordProbe) : RecordRule := fun fields =>
  match p.test with
  | .fails => .error ⟨p.message⟩
  | test => .ok (if test.finds fields then some p.message else none)

end RecordProbe

end RecordValidation
