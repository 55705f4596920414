import RecordValidation.Pattern.Bytes
import RecordValidation.Pattern.Node
import RecordValidation.Pattern.Slots

/-!
The size of a pattern: the storage of the two automata that read text byte by
byte, one from its start and one from its end, with states of their own for each
repetition. Patterns beyond a limit are refused, so a short text can not ask for
a huge automaton. States are numbered in the order in which they are made; equal
parts of one set of characters share states as long as they are remembered.
-/

namespace RecordValidation.Pattern

-- Powers are the core library's, whatever else is in scope.
attribute [local instance (high)] instPowNat

/-- The way in which an automaton reads text. -/
inductive Direction
  | forward
  | backward
  deriving DecidableEq, Repr

/-- The storage in use: the number of states, and the bytes beside them. -/
structure Storage where
  states : Nat := 0
  beside : Nat := 0

namespace Storage

/-- One more state, with so many bytes beside it. -/
def add (s : Storage) (beside : Nat) : Storage := ⟨s.states + 1, s.beside + beside⟩

/-- States without anything beside them. -/
def addPlain (s : Storage) (count : Nat) : Storage := ⟨s.states + count, s.beside⟩

/-- A state takes 32 bytes by itself. -/
def bytes (s : Storage) : Nat := 32 * s.states + s.beside

/-- The greatest storage that an automaton may take. -/
def limit : Nat := 10 * 2 ^ (20 : Nat)

/-- Repeats a step that adds storage, which is pointless beyond the limit. -/
def times (step : Storage → Storage) : Nat → Storage → Storage
  | 0, s => s
  | count + 1, s => if limit < s.bytes then s else times step count (step s)

theorem times_of_limit_lt (step : Storage → Storage) (count : Nat) (s : Storage)
    (h : limit < s.bytes) : times step count s = s := by
  cases count with
  | zero => rfl
  | succ count => rw [times, if_pos h]

end Storage

/-- The bytes for a branch of a state, and for a byte interval that leads on. -/
def branchSize : Nat := 4

def stepSize : Nat := 8

/-- A state that leads on in two ways. -/
def Storage.addFork (s : Storage) : Storage := s.add (2 * branchSize)

/-! Sets of characters. -/

/-- Storage that grows by states which are remembered by where they lead. -/
structure Shared where
  slots : Slots
  storage : Storage

/-- The state that leads on as a key tells, with so many bytes beside it. It is
made unless it is remembered. -/
def Shared.state (m : Shared) (key : List Nat) (beside : Nat) : Nat × Shared :=
  match m.slots.find? key with
  | some known => (known, m)
  | none => (m.storage.states, ⟨m.slots.insert key m.storage.states, m.storage.add beside⟩)

/-- A state that was just asked for is not made again. -/
theorem Shared.state_state (m : Shared) (key : List Nat) (beside again : Nat) :
    (m.state key beside).2.state key again = m.state key beside := by
  cases h : m.slots.find? key with
  | some known => simp [Shared.state, h]
  | none => simp [Shared.state, h, Slots.find?_insert_self]

/-- Rows by their first intervals, for rows in order. -/
def byFirst : List Row → List ((Nat × Nat) × List Row)
  | [] => []
  | [] :: rows => byFirst rows
  | (r :: row) :: rows =>
    match byFirst rows with
    | (q, under) :: more =>
      if q = r then (r, row :: under) :: more else (r, [row]) :: (q, under) :: more
    | [] => [(r, [row])]

/-- The state for rows of at most so many bytes, after the states it leads to. The
last bytes lead to the target. -/
def rowsState (target : Nat) : Nat → List Row → Shared → Nat × Shared
  | 0, _, m => (target, m)
  | depth + 1, rows, m =>
    match byFirst rows with
    | [] => (target, m)
    | groups =>
      let (key, m) := groups.foldl (fun (key, m) ((first, last), under) =>
        let (next, m) := rowsState target depth under m
        (key ++ [first, last, next], m)) ([], m)
      m.state key (stepSize * groups.length)

/-- The state for one row that is read from its end: the first byte leads to the
target, each other to the state for the byte before it. -/
def rowState (target : Nat) (row : Row) (m : Shared) : Nat × Shared :=
  row.foldl (fun (next, m) (first, last) => m.state [next, first, last] 0) (target, m)

/-- The states for one character of a set that goes beyond ASCII. States are shared
by rows that end alike where text is read from its start, and by rows that begin
alike where it is read from its end. -/
def layRows (d : Direction) (rows : List Row) (s : Storage) : Storage :=
  match d with
  | .forward => (rowsState s.states 4 rows ⟨{ count := 10000 }, s.add 0⟩).2.storage
  | .backward =>
    let target := s.states + 1
    let s := (s.add (branchSize * rows.length)).add 0
    (rows.foldl (fun m row => (rowState target row m).2) ⟨{ count := 1000 }, s⟩).storage

/-- The states for one character of a set. A single character takes a state for
each byte. -/
def laySet (d : Direction) (set : CharSet) (s : Storage) : Storage :=
  let spread :=
    if set.within 0x7f then (s.add 0).add (stepSize * set.ranges.length)
    else layRows d (utf8Rows set) s
  match set.ranges with
  | [(first, last)] => if first = last then s.addPlain (byteLength first) else spread
  | _ => spread

/-! Nodes. -/

/-- The storage after a node has been added. A state that leads on in two ways is
counted with both, whatever comes next. -/
def Node.lay (d : Direction) : Node → Storage → Storage
  | .empty, s | .look _, s => s.add 0
  | .chars set, s => laySet d set s
  | .seq a b, s =>
    match d with
    | .forward => b.lay d (a.lay d s)
    | .backward => a.lay d (b.lay d s)
  | .either a b, s => ((b.lay d (a.lay d s)).addFork).add 0
  | .repeated 0 (some 1) n, s => (n.lay d s.addFork).add 0
  | .repeated 0 none n, s =>
    if 0 < n.leastLength.getD 0 then n.lay d s.addFork
    else (n.lay d s).addFork.addFork.add 0
  | .repeated least none n, s => (Storage.times (n.lay d) least s).addFork
  | .repeated least (some most) n, s =>
    if least = most then Storage.times (n.lay d) least s
    else
      let s := if least = 0 then s.add 0 else Storage.times (n.lay d) least s
      Storage.times (fun s => n.lay d s.addFork) (most - least) (s.add 0)
  | .capture n, s =>
    match d with
    | .forward => (n.lay d (s.add 0)).add 0
    | .backward => n.lay d s

/-- Whether every match begins at the start of the text, or for the other
direction ends at its end, by an anchor that comes before all characters. -/
def Node.anchored (d : Direction) : Node → Bool
  | .empty | .chars _ => false
  | .look l =>
    match d, l with
    | .forward, .textStart | .backward, .textEnd => true
    | _, _ => false
  | .seq a b =>
    match d with
    | .forward => a.anchored d || a.isBlank && b.anchored d
    | .backward => b.anchored d || b.isBlank && a.anchored d
  | .either a b => a.anchored d && b.anchored d
  | .repeated least _ n => least != 0 && n.anchored d
  | .capture n => n.anchored d

/-- The storage of the automaton for a node. Unless it is anchored it first passes
over any number of bytes. The one that reads forward notes where the match
begins and ends. -/
def Node.storage (d : Direction) (n : Node) : Storage :=
  let s : Storage := {}
  let s := if n.anchored d then s.add 0 else (s.addFork.add 0).add stepSize
  match d with
  | .forward => ((n.lay d (s.add 0)).add 0).add 0
  | .backward => (n.lay d s).add 0

def Node.tooLarge (n : Node) : Bool :=
  Storage.limit < (n.storage .forward).bytes || Storage.limit < (n.storage .backward).bytes

end RecordValidation.Pattern
