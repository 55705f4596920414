/-!
Patterns as they are written. A tree keeps what the text says, with its flag
changes and class names; what it matches is settled in a later step, where the
flags in force are known.
-/

namespace RecordValidation.Pattern

/-- Why a text is not a pattern. -/
inductive PatternError
  | unclosedGroup
  | unopenedGroup
  | lookAround
  | badGroupName
  | repeatedGroupName
  | badFlags
  | nothingToRepeat
  | badCount
  | badEscape
  | backReference
  | unclosedClass
  | badClassRange
  | unknownClass
  | classNotAllowed
  | notText
  | nestedTooDeep
  | tooLarge
  deriving DecidableEq, Repr

/-- The switches that the letters of a flag group set. -/
inductive Flag
  | ignoreCase
  | multiLine
  | dotAll
  | swapGreed
  | unicode
  | anyLineEnd
  | verbose
  deriving DecidableEq, Repr

/-- One character of a flag group: a switch, or the sign that the switches
after it are turned off. -/
inductive FlagItem
  | flag (f : Flag)
  | negation
  deriving DecidableEq, Repr

/-- A character of a pattern. A `bare` one is written with two hexadecimal
digits, which name a byte where patterns are not about characters. -/
structure Literal where
  code : Nat
  bare : Bool
  deriving DecidableEq, Repr

/-- The classes that have a one-letter name. -/
inductive ShortClass
  | digit
  | space
  | word
  deriving DecidableEq, Repr

/-- A class named between `\p` and its closing brace. -/
inductive PropertyQuery
  | named (name : List Char)
  | valued (property value : List Char)
  deriving DecidableEq, Repr

/-- How two classes within brackets are put together. -/
inductive ClassOp
  | intersection
  | difference
  | symmetricDifference
  deriving DecidableEq, Repr

inductive ClassExpr
  | literal (l : Literal)
  | range (first last : Literal)
  | short (negated : Bool) (which : ShortClass)
  | property (negated : Bool) (query : PropertyQuery)
  | ascii (negated : Bool) (ranges : List (Nat × Nat))
  | bracketed (negated : Bool) (inner : ClassExpr)
  | union (items : List ClassExpr)
  | combined (op : ClassOp) (left right : ClassExpr)

/-- A condition on a place between two characters, as it is written. -/
inductive Anchor
  | lineStart
  | lineEnd
  | textStart
  | textEnd
  | wordBoundary
  | notWordBoundary
  | wordStart
  | wordEnd
  | wordStartHalf
  | wordEndHalf
  deriving DecidableEq, Repr

/-- What a pair of parentheses does beside grouping. -/
inductive GroupKind
  | capture
  | flagged (items : List FlagItem)
  deriving DecidableEq, Repr

inductive Expr
  | empty
  | flags (items : List FlagItem)
  | literal (l : Literal)
  | dot
  | anchor (a : Anchor)
  | chars (c : ClassExpr)
  | repeated (least : Nat) (most : Option Nat) (e : Expr)
  | group (kind : GroupKind) (e : Expr)
  | concat (items : List Expr)
  | alternatives (branches : List Expr)

/-- How deep classes are nested within a class. -/
def ClassExpr.depth : ClassExpr → Nat
  | .literal _ | .range _ _ | .short _ _ | .property _ _ | .ascii _ _ | .union [] => 0
  | .bracketed _ inner => inner.depth + 1
  | .union items => depths items + 1
  | .combined _ left right => max left.depth right.depth + 1
where
  depths : List ClassExpr → Nat
    | [] => 0
    | item :: rest => max item.depth (depths rest)

/-- How deep an expression is nested. -/
def Expr.depth : Expr → Nat
  | .empty | .flags _ | .literal _ | .dot | .anchor _ => 0
  | .chars c => c.depth
  | .repeated _ _ e | .group _ e => e.depth + 1
  | .concat items => depths items + 1
  | .alternatives branches => depths branches + 1
where
  depths : List Expr → Nat
    | [] => 0
    | e :: rest => max e.depth (depths rest)

/-- An expression of several in a row, without a list around a single one. -/
def Expr.ofItems : List Expr → Expr
  | [] => .empty
  | [e] => e
  | items => .concat items

/-- A class of several items, without a list around a single one. -/
def ClassExpr.ofItems : List ClassExpr → ClassExpr
  | [item] => item
  | items => .union items

/-- Whether a flag is turned on or off by a flag group. -/
def flagState (f : Flag) : Bool → List FlagItem → Option Bool
  | _, [] => none
  | _, .negation :: rest => flagState f false rest
  | on, .flag g :: rest => if g = f then some on else flagState f on rest

end RecordValidation.Pattern
