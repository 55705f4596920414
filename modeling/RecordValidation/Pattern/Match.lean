import RecordValidation.Pattern.Node

/-!
Matching. Sets of places in a text are numbers whose bit `i` stands for the
place before character `i`. A pattern is a map of such sets: it takes the places
where a match may begin to those where it may end. The map sends a union to a
union of the images, which is why a search needs to look at no place twice.
-/

namespace RecordValidation.Pattern

-- Powers are the core library's, whatever else is in scope.
attribute [local instance (high)] instPowNat

/-- The places of a text whose next character passes the test. -/
def placesBefore (test : Nat → Bool) : List Nat → Nat
  | [] => 0
  | c :: rest => 2 * placesBefore test rest + (test c).toNat

/-- The places of a text where a condition holds on the characters around. -/
def placesBetween (test : Option Nat → Option Nat → Bool) : Option Nat → List Nat → Nat
  | before, [] => (test before none).toNat
  | before, c :: rest => 2 * placesBetween test (some c) rest + (test before (some c)).toNat

/-- A pattern put on a text: sets of characters and conditions have become sets
of places. -/
inductive Placed
  | stay
  | advance (places : Nat)
  | keep (places : Nat)
  | seq (first second : Placed)
  | either (left right : Placed)
  | repeated (least : Nat) (most : Option Nat) (p : Placed)

def Node.place (text : List Nat) : Node → Placed
  | .empty => .stay
  | .chars s => .advance (placesBefore s.contains text)
  | .look l => .keep (placesBetween (fun before after => l.holds before after) none text)
  | .seq a b => .seq (a.place text) (b.place text)
  | .either a b => .either (a.place text) (b.place text)
  | .repeated least most n => .repeated least most (n.place text)
  | .capture n => n.place text

/-- Applies a map so many times, or until nothing changes. -/
def applyTimes (step : Nat → Nat) : Nat → Nat → Nat
  | 0, places => places
  | count + 1, places =>
    let next := step places
    if next = places then places else applyTimes step count next

/-- The places reached from `fresh` in at most so many steps, with those seen
before. Each step starts from the places that are new. -/
def reach (step : Nat → Nat) : Nat → Nat → Nat → Nat
  | 0, seen, _ => seen
  | count + 1, seen, fresh =>
    let next := (step fresh ||| seen) ^^^ seen
    if next = 0 then seen else reach step count (seen ||| next) next

/-- The places where a match may end that begins at one of the given places. In
a text of the given length no more steps than that lead to new places. -/
def Placed.ends (length : Nat) : Placed → Nat → Nat
  | .stay, places => places
  | .advance before, places => (places &&& before) <<< 1
  | .keep holding, places => places &&& holding
  | .seq a b, places => b.ends length (a.ends length places)
  | .either a b, places => a.ends length places ||| b.ends length places
  | .repeated least most p, places =>
    let start := applyTimes (p.ends length) least places
    let more :=
      match most with
      | some most => most - least
      | none => length + 1
    reach (p.ends length) more start start

/-- Whether a pattern matches anywhere in a text. -/
def Node.matchesIn (n : Node) (text : List Nat) : Bool :=
  (n.place text).ends text.length (2 ^ (text.length + 1) - 1) != 0

end RecordValidation.Pattern
