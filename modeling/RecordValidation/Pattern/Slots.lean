import Std.Data.HashMap

/-!
A memory of fixed size. A key belongs to one of a number of slots, and a slot
holds one key: a newcomer displaces what was there. So a key that was put in may
be missing later, but what is found is what was put in last.
-/

namespace RecordValidation.Pattern

/-- A memory with `count` slots, and the key and value in each slot in use. -/
structure Slots where
  count : Nat
  held : Std.HashMap Nat (List Nat × Nat) := {}

namespace Slots

/-- A number that depends on every part of a key and on their order. -/
def digest (key : List Nat) : UInt64 :=
  key.foldl (fun h part => (h ^^^ part.toUInt64) * 0x100000001b3) 0xcbf29ce484222325

def slotOf (s : Slots) (key : List Nat) : Nat := (digest key).toNat % s.count

def find? (s : Slots) (key : List Nat) : Option Nat :=
  match s.held[s.slotOf key]? with
  | some (held, value) => if held = key then some value else none
  | none => none

def insert (s : Slots) (key : List Nat) (value : Nat) : Slots :=
  { s with held := s.held.insert (s.slotOf key) (key, value) }

theorem find?_insert_self (s : Slots) (key : List Nat) (value : Nat) :
    (s.insert key value).find? key = some value := by
  simp [find?, insert, slotOf]

/-- A newcomer leaves the other slots alone. -/
theorem find?_insert_of_slotOf_ne (s : Slots) (key other : List Nat) (value : Nat)
    (h : s.slotOf key ≠ s.slotOf other) :
    (s.insert key value).find? other = s.find? other := by
  unfold find? insert
  simp only [slotOf] at h ⊢
  rw [Std.HashMap.getElem?_insert]
  simp [h]

end Slots

end RecordValidation.Pattern
