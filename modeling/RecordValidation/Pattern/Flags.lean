import RecordValidation.Pattern.Node
import RecordValidation.Pattern.Reader

/-!
The flags of a pattern and what follows from them: which characters a class
holds, where an anchor holds, and with that the node of an expression.
-/

namespace RecordValidation.Pattern

/-- The flags in force at a place of a pattern. -/
structure Flags where
  ignoreCase : Bool := false
  multiLine : Bool := false
  dotAll : Bool := false
  anyLineEnd : Bool := false
  unicode : Bool := true
  deriving DecidableEq, Repr

/-- The flags after a flag group. -/
def Flags.update (f : Flags) (items : List FlagItem) : Flags where
  ignoreCase := (flagState .ignoreCase true items).getD f.ignoreCase
  multiLine := (flagState .multiLine true items).getD f.multiLine
  dotAll := (flagState .dotAll true items).getD f.dotAll
  anyLineEnd := (flagState .anyLineEnd true items).getD f.anyLineEnd
  unicode := (flagState .unicode true items).getD f.unicode

def asciiWord : CharSet := ⟨[(0x30, 0x39), (0x41, 0x5a), (0x5f, 0x5f), (0x61, 0x7a)]⟩

def Flags.word (f : Flags) : CharSet := if f.unicode then CharClass.wordChars else asciiWord

/-- Adds the other cases of the members where case is ignored. -/
def Flags.fold (f : Flags) (s : CharSet) : CharSet :=
  if !f.ignoreCase then s
  else if f.unicode then Folding.close s
  else Folding.closeAscii s

/-- What is not in a class. One that has an interval up to the last code point
before the surrogates and another from the first one after them leaves no gap
between the two; both code points then stay in. -/
def outside (top : Nat) (s : CharSet) : CharSet :=
  let others := s.complementTo top
  if s.ranges.any (·.2 = 0xd7ff) && s.ranges.any (·.1 = 0xe000) then
    others.union ⟨[(0xd7ff, 0xe000)]⟩
  else others

/-- Completes a class: cases first, then negation. Where patterns are not about
characters a class is one of bytes, and must not hold any beyond ASCII. -/
def Flags.complete (f : Flags) (negated : Bool) (s : CharSet) : Except PatternError CharSet :=
  let s := f.fold s
  let s := if negated then outside (if f.unicode then CharSet.lastCode else 0xff) s else s
  if f.unicode || s.within 0x7f then .ok s else .error .notText

/-- The code point of a literal in a class. -/
def Flags.member (f : Flags) (l : Literal) : Except PatternError Nat :=
  if f.unicode || l.code ≤ 0x7f then .ok l.code else .error .classNotAllowed

def Flags.short (f : Flags) (negated : Bool) (which : ShortClass) :
    Except PatternError CharSet :=
  let chars :=
    match which with
    | .digit => if f.unicode then CharClass.digits else ⟨[(0x30, 0x39)]⟩
    | .space => if f.unicode then CharClass.spaces else ⟨[(0x09, 0x0d), (0x20, 0x20)]⟩
    | .word => f.word
  { f with ignoreCase := false }.complete negated chars

def Flags.property (f : Flags) (negated : Bool) (query : PropertyQuery) :
    Except PatternError CharSet :=
  if !f.unicode then .error .classNotAllowed
  else
    let found :=
      match query with
      | .named name => CharClass.named? name
      | .valued property value => CharClass.valued? property value
    match found with
    | some chars => f.complete negated chars
    | none => .error .unknownClass

def ClassOp.apply : ClassOp → CharSet → CharSet → CharSet
  | .intersection => CharSet.inter
  | .difference => CharSet.diff
  | .symmetricDifference => CharSet.symmDiff

/-- The characters of a class. Both sides of an operator are complete before it
is applied. -/
def ClassExpr.resolve (f : Flags) : ClassExpr → Except PatternError CharSet
  | .literal l => do return .single (← f.member l)
  | .range first last => do return ⟨[(← f.member first, ← f.member last)]⟩
  | .short negated which => f.short negated which
  | .property negated query => f.property negated query
  | .ascii negated ranges => f.complete negated ⟨ranges⟩
  | .bracketed negated inner => do f.complete negated (← inner.resolve f)
  | .union items => do return .ofRanges (← resolveAll items)
  | .combined op left right => do
    return op.apply (f.fold (← left.resolve f)) (f.fold (← right.resolve f))
where
  resolveAll : List ClassExpr → Except PatternError (List (Nat × Nat))
    | [] => .ok []
    | item :: rest => do
      let s ← item.resolve f
      return s.ranges ++ (← resolveAll rest)

def Flags.literal (f : Flags) (l : Literal) : Except PatternError CharSet :=
  if f.unicode then .ok (f.fold (.single l.code))
  else if l.bare && 0x7f < l.code then .error .notText
  else .ok (f.fold (.single l.code))

/-- Any character, or any but those that end lines. -/
def Flags.dot (f : Flags) : Except PatternError CharSet :=
  if !f.unicode then .error .notText
  else if f.dotAll then .ok CharSet.empty.complement
  else if f.anyLineEnd then .ok (CharSet.ofRanges [(0x0a, 0x0a), (0x0d, 0x0d)]).complement
  else .ok (CharSet.single 0x0a).complement

def Flags.look (f : Flags) : Anchor → Look
  | .lineStart =>
    if !f.multiLine then .textStart else if f.anyLineEnd then .anyLineStart else .lineStart
  | .lineEnd => if !f.multiLine then .textEnd else if f.anyLineEnd then .anyLineEnd else .lineEnd
  | .textStart => .textStart
  | .textEnd => .textEnd
  | .wordBoundary => .word f.word
  | .notWordBoundary => .notWord f.word
  | .wordStart => .wordStart f.word
  | .wordEnd => .wordEnd f.word
  | .wordStartHalf => .wordStartHalf f.word
  | .wordEndHalf => .wordEndHalf f.word

/-- Settles the flags. A change of flags lasts to the end of its group, also
across the bars between alternatives, so the flags after a part are given too. -/
def Expr.resolve (f : Flags) : Expr → Except PatternError (Node × Flags)
  | .empty => .ok (.empty, f)
  | .flags items => .ok (.empty, f.update items)
  | .literal l => do return (.chars (← f.literal l), f)
  | .dot => do return (.chars (← f.dot), f)
  | .anchor a => .ok (.look (f.look a), f)
  | .chars c => do return (.chars (← c.resolve f), f)
  | .repeated least most e => do
    let (n, f) ← e.resolve f
    return (n.times least most, f)
  | .group .capture e => do return (.capture (← e.resolve f).1, f)
  | .group (.flagged items) e => do return ((← e.resolve (f.update items)).1, f)
  | .concat items => row f items
  | .alternatives branches => choice f branches
where
  row (f : Flags) : List Expr → Except PatternError (Node × Flags)
    | [] => .ok (.empty, f)
    | e :: rest => do
      let (first, f) ← e.resolve f
      let (second, f) ← row f rest
      return (first.append second, f)
  choice (f : Flags) : List Expr → Except PatternError (Node × Flags)
    | [] => .ok (.chars .empty, f)
    | [e] => e.resolve f
    | e :: rest => do
      let (left, f) ← e.resolve f
      let (right, f) ← choice f rest
      return (.either left right, f)

end RecordValidation.Pattern
