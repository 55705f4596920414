import RecordValidation.Pattern.Flags
import RecordValidation.Pattern.Match
import RecordValidation.Pattern.Size

/-!
Patterns for text. A pattern keeps the text it was read from, which messages
show, and the node that tells what it matches.
-/

namespace RecordValidation

open Pattern in
structure Pattern where
  text : String
  node : Node

namespace Pattern

/-- The deepest nesting that a pattern may have. -/
def depthLimit : Nat := 250

def ofString? (text : String) : Except PatternError Pattern := do
  let e ← Expr.ofChars? text.toList
  if depthLimit < e.depth then throw .nestedTooDeep
  let (node, _) ← e.resolve {}
  if node.tooLarge then throw .tooLarge
  return { text, node }

/-- Whether the pattern matches somewhere in a text. -/
def isMatch (p : Pattern) (text : String) : Bool :=
  p.node.matchesIn (text.toList.map Char.toNat)

end Pattern

end RecordValidation
