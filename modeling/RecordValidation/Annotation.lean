import RecordValidation.Pieces

/-!
Annotations: the rules of a field, as text. Bars divide an annotation into
tokens, and the first colon of a token divides its name from its argument. The
order of tokens is kept. A bare `dive` divides the rules of a container from
those of what it holds.
-/

namespace RecordValidation

/-- The rules that every library user has. -/
inductive Builtin
  | required
  | least
  | greatest
  | member
  | pattern
  | dive
  deriving DecidableEq, Repr

namespace Builtin

def name : Builtin → String
  | .required => "req"
  | .least => "min"
  | .greatest => "max"
  | .member => "in"
  | .pattern => "regex"
  | .dive => "dive"

def all : List Builtin := [.required, .least, .greatest, .member, .pattern, .dive]

def ofName? (name : String) : Option Builtin := all.find? (·.name == name)

theorem ofName?_name (b : Builtin) : ofName? b.name = some b := by cases b <;> decide

theorem name_of_ofName? {name : String} {b : Builtin} (h : ofName? name = some b) :
    b.name = name := by
  simpa using List.find?_some h

end Builtin

/-- One rule of an annotation. -/
structure Token where
  name : String
  arg : Option String
  deriving DecidableEq, Repr

namespace Token

def ofChars (text : List Char) : Token :=
  let (name, arg) := cut ':' text
  ⟨String.ofList name, arg.map String.ofList⟩

def chars (t : Token) : List Char :=
  match t.arg with
  | some arg => t.name.toList ++ ':' :: arg.toList
  | none => t.name.toList

/-- The token as it stands in an annotation. -/
def text (t : Token) : String := String.ofList t.chars

/-- Whether the token leads into a container. With an argument it does not. -/
def isDive (t : Token) : Bool := t == ⟨Builtin.dive.name, none⟩

end Token

namespace Annotation

/-- The tokens of an annotation. An empty annotation has none. -/
def tokens (text : String) : List Token :=
  if text.isEmpty then []
  else (pieces '|' text.toList).map Token.ofChars

/-- The annotation that tokens come from. -/
def ofTokens (tokens : List Token) : String :=
  String.ofList (glue '|' (tokens.map Token.chars))

/-- The tokens before the first dive and, if there is one, those after it. -/
def splitDive : List Token → List Token × Option (List Token)
  | [] => ([], none)
  | t :: rest =>
    if t.isDive then ([], some rest)
    else
      let (head, tail) := splitDive rest
      (t :: head, tail)

/-- The parts of an annotation between its dives. -/
def levels : List Token → List (List Token)
  | [] => [[]]
  | t :: rest =>
    match levels rest with
    | [] => [[t]]
    | first :: others =>
      if t.isDive then [] :: first :: others else (t :: first) :: others

end Annotation

end RecordValidation
