import RecordValidation.Decimal.Reader
import RecordValidation.Pattern
import RecordValidation.Rule
import RecordValidation.Settings
import RecordValidation.Violation

/-!
Segments: the compiled rules of one level of an annotation. All kinds of values
share one form of segment. What a kind allows is said by its dialect, and how a
value is measured by a gauge.
-/

namespace RecordValidation

/-- The rules of one level. Bounds are of type `β` and listed members of type `α`. -/
structure Segment (β α : Type) where
  required : Bool := false
  least : Option β := none
  greatest : Option β := none
  pattern : Option Pattern := none
  members : Option (List α) := none
  custom : List NamedRule := []

/-- What the rules of a level can say: how bounds and members are read, if there
can be any, and whether there can be a pattern. -/
structure Dialect (β α : Type) where
  station : Station
  bound : Option (String → Except Malformed β)
  member : Option (String → Except Malformed α)
  pattern : Bool

namespace Dialect

def count (text : String) : Except Malformed Nat := (Numeral.count? text).mapError .notWhole

def integer (text : String) : Except Malformed Int := (Numeral.integer? text).mapError .notWhole

/-- A bound for floats, which must be finite. -/
def finite (text : String) : Except Malformed Float :=
  match Decimal.read? text with
  | none => .error .notDecimal
  | some x => if x.isFinite then .ok x else .error .notFinite

def text : Dialect Nat String := ⟨.scalar .text, some count, some .ok, true⟩

def whole : Dialect Int Int := ⟨.scalar .integer, some integer, some integer, false⟩

def float : Dialect Float Empty := ⟨.scalar .float, some finite, none, false⟩

/-- Times are bounded by their age in seconds. -/
def time : Dialect Int Empty := ⟨.scalar .time, some integer, none, false⟩

/-- Sequences are bounded by the number of their elements. -/
def sequence : Dialect Nat Empty := ⟨.sequence, some count, none, false⟩

def pointer : Dialect Empty Empty := ⟨.pointer, none, none, false⟩

def record : Dialect Empty Empty := ⟨.record, none, none, false⟩

end Dialect

/-- What registration knows: the rules in the book, and what to do about others. -/
structure Lexicon where
  rules : RuleBook
  settings : Settings

/-- A token that is refused, and why. -/
structure BadToken where
  token : Token
  cause : TokenFault
  deriving DecidableEq, Repr

namespace Segment

variable {β α : Type}

/-- The argument of a token, which must not be empty. -/
def argument (t : Token) : Except TokenFault String :=
  match t.arg with
  | some arg => if arg.isEmpty then .error (.malformed .argumentMissing) else .ok arg
  | none => .error (.malformed .argumentMissing)

/-- The value for a place that is still free. -/
def once {γ : Type} (place : Option γ) (value : γ) : Except TokenFault (Option γ) :=
  if place.isSome then .error (.malformed .repeated) else .ok (some value)

/-- Reads the argument of a token, if the dialect has a way to do so. -/
def readArgument {γ : Type} (d : Dialect β α) (read? : Option (String → Except Malformed γ))
    (t : Token) : Except TokenFault γ :=
  match read? with
  | none => .error (.unsupported d.station)
  | some read => do (read (← argument t)).mapError .malformed

/-- The items of a list, which commas divide. -/
def listed (read : String → Except Malformed α) (text : String) :
    Except Malformed (List α) :=
  (pieces ',' text.toList).mapM fun item => read (String.ofList item)

/-- The rule that a name stands for. One that nobody knows is refused or left out. -/
def resolve (lex : Lexicon) (t : Token) : Except TokenFault (List NamedRule) :=
  match lex.rules.bind? t.name with
  | some bound =>
    if t.arg.isNone then .ok [bound] else .error (.malformed .customWithArgument)
  | none => if lex.settings.isStrict then .error .unknown else .ok []

/-- Adds the rule that a token stands for. -/
def add (d : Dialect β α) (lex : Lexicon) (s : Segment β α) (t : Token) :
    Except TokenFault (Segment β α) :=
  match Builtin.ofName? t.name with
  | some .required =>
    if t.arg.isSome then .error (.malformed .takesNoArgument)
    else if s.required then .error (.malformed .repeated)
    else .ok { s with required := true }
  | some .least => do
    let least ← once s.least (← readArgument d d.bound t)
    return { s with least }
  | some .greatest => do
    let greatest ← once s.greatest (← readArgument d d.bound t)
    return { s with greatest }
  | some .member => do
    let members ← once s.members (← readArgument d (d.member.map listed) t)
    return { s with members }
  | some .pattern => do
    if !d.pattern then throw (.unsupported d.station)
    let pattern ← (Pattern.ofString? (← argument t)).mapError .pattern
    return { s with pattern := ← once s.pattern pattern }
  | some .dive => .error (.unsupported d.station)
  | none => do return { s with custom := s.custom ++ (← resolve lex t) }

/-- Compiles the tokens of a level from the left. The first that is refused
decides. -/
def compileFrom (d : Dialect β α) (lex : Lexicon) (s : Segment β α) :
    List Token → Except BadToken (Segment β α)
  | [] => .ok s
  | t :: rest =>
    match s.add d lex t with
    | .ok s => compileFrom d lex s rest
    | .error cause => .error ⟨t, cause⟩

def compile (d : Dialect β α) (lex : Lexicon) (tokens : List Token) :
    Except BadToken (Segment β α) :=
  compileFrom d lex {} tokens

end Segment

/-- How a value compares with bounds, patterns and members, and what messages
say about those that it fails. -/
structure Gauge (β α : Type) where
  above : β → Bool
  below : β → Bool
  aboveText : β → String
  belowText : β → String
  fits : Pattern → Bool
  equals : α → Bool
  memberText : α → String

namespace Segment

variable {β α : Type}

/-- A violation with a message that begins with the label. -/
def violation (label text code : String) : Violation := ⟨label, label ++ " " ++ text, code⟩

/-- The built-in checks that a present value fails, in their fixed order. -/
def failures (s : Segment β α) (g : Gauge β α) (label : String) : List Violation :=
  ((s.greatest.filter g.above).map fun bound =>
    violation label (g.aboveText bound) Violation.greatestCode).toList ++
  ((s.least.filter g.below).map fun bound =>
    violation label (g.belowText bound) Violation.leastCode).toList ++
  ((s.pattern.filter (!g.fits ·)).map fun p =>
    violation label ("must match regex /" ++ p.text ++ "/") Violation.patternCode).toList ++
  ((s.members.filter (!·.any g.equals)).map fun members =>
    violation label ("must be in [" ++ ", ".intercalate (members.map g.memberText) ++ "]")
      Violation.memberCode).toList

end Segment

namespace Gauge

/-- Texts are measured by the number of their characters. -/
def text (s : String) : Gauge Nat String where
  above bound := bound < s.length
  below bound := s.length < bound
  aboveText bound := "can not be longer than " ++ toString bound ++ " characters"
  belowText bound := "must be at least " ++ toString bound ++ " characters"
  fits p := p.isMatch s
  equals member := member == s
  memberText := id

def whole (n : Int) : Gauge Int Int where
  above bound := bound < n
  below bound := n < bound
  aboveText bound := "can not be greater than " ++ toString bound
  belowText bound := "must be at least " ++ toString bound
  fits _ := true
  equals member := member == n
  memberText := toString

/-- What is not a number is beyond every bound. -/
def float (x : Float) : Gauge Float Empty where
  above bound := bound < x || x.isNaN
  below bound := x < bound || x.isNaN
  aboveText bound := "can not be greater than " ++ Decimal.boundLayout.write bound
  belowText bound := "must be at least " ++ Decimal.boundLayout.write bound
  fits _ := true
  equals _ := false
  memberText _ := ""

def time (age : Int) : Gauge Int Empty where
  above bound := bound < age
  below bound := age < bound
  aboveText bound := "can not have age greater than " ++ toString bound ++ " seconds"
  belowText bound := "must have age at least " ++ toString bound ++ " seconds"
  fits _ := true
  equals _ := false
  memberText _ := ""

def sequence (length : Nat) : Gauge Nat Empty where
  above bound := bound < length
  below bound := length < bound
  aboveText bound := "can not have more than " ++ toString bound ++ " elements"
  belowText bound := "must have at least " ++ toString bound ++ " elements"
  fits _ := true
  equals _ := false
  memberText _ := ""

end Gauge

end RecordValidation
