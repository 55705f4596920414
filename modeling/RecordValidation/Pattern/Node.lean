import RecordValidation.Character.Set

/-!
What a pattern matches. In a node all flags are settled: characters are sets,
anchors are conditions on the two characters around a place. Nodes are put
together without empty parts in a row and without repetitions that repeat
nothing, so the size of a node is the size of what there is to match.
-/

namespace RecordValidation.Pattern

/-- A condition on the place between two characters, with the ends of the text
given by `none`. The sets hold the characters that words are made of. -/
inductive Look
  | textStart
  | textEnd
  | lineStart
  | lineEnd
  | anyLineStart
  | anyLineEnd
  | word (chars : CharSet)
  | notWord (chars : CharSet)
  | wordStart (chars : CharSet)
  | wordEnd (chars : CharSet)
  | wordStartHalf (chars : CharSet)
  | wordEndHalf (chars : CharSet)

/-- Whether a condition holds between two characters. A line feed after a
carriage return ends the same line. -/
def Look.holds (before after : Option Nat) : Look → Bool
  | .textStart => before.isNone
  | .textEnd => after.isNone
  | .lineStart => before.all (· = 0x0a)
  | .lineEnd => after.all (· = 0x0a)
  | .anyLineStart => before.all fun c => c = 0x0a || (c = 0x0d && after ≠ some 0x0a)
  | .anyLineEnd => after.all fun c => c = 0x0d || (c = 0x0a && before ≠ some 0x0d)
  | .word chars => before.any chars.contains != after.any chars.contains
  | .notWord chars => before.any chars.contains == after.any chars.contains
  | .wordStart chars => !before.any chars.contains && after.any chars.contains
  | .wordEnd chars => before.any chars.contains && !after.any chars.contains
  | .wordStartHalf chars => !before.any chars.contains
  | .wordEndHalf chars => !after.any chars.contains

inductive Node
  | empty
  | chars (s : CharSet)
  | look (l : Look)
  | seq (first second : Node)
  | either (left right : Node)
  | repeated (least : Nat) (most : Option Nat) (n : Node)
  | capture (n : Node)

namespace Node

/-- Whether a node can match nothing but empty text. -/
def isBlank : Node → Bool
  | .empty | .look _ => true
  | .chars _ => false
  | .seq a b | .either a b => a.isBlank && b.isBlank
  | .repeated _ _ n | .capture n => n.isBlank

/-- How many characters a match takes at least. It can not be told of a node
with a part that matches no text at all. -/
def leastLength : Node → Option Nat
  | .empty | .look _ => some 0
  | .chars s => if s.isEmpty then none else some 1
  | .seq a b => do return (← a.leastLength) + (← b.leastLength)
  | .either a b => do return min (← a.leastLength) (← b.leastLength)
  | .repeated least _ n => n.leastLength.map (least * ·)
  | .capture n => n.leastLength

/-- One node after another. -/
def append : Node → Node → Node
  | .empty, b => b
  | a, .empty => a
  | a, b => .seq a b

/-- A node so many times. What matches only empty text counts at most once. -/
def times (least : Nat) (most : Option Nat) (n : Node) : Node :=
  let (least, most) :=
    if n.isBlank then (min least 1, some (min 1 (most.getD 1))) else (least, most)
  match least, most with
  | 0, some 0 => .empty
  | 1, some 1 => n
  | least, most => .repeated least most n

end Node

end RecordValidation.Pattern
