import RecordValidation.Character.Set

/-!
Sets of characters as sets of byte strings. A row of byte intervals stands for
the strings with one byte from each; the rows of a set follow each other in the
order of the characters.
-/

namespace RecordValidation.Pattern

/-- Byte strings of one length, by the interval for each byte. -/
abbrev Row := List (Nat × Nat)

/-- The byte strings for the code points `first` to `last` of one block, as rows
of byte intervals. A block is what `count` continuation bytes can tell apart;
`mark` is the mark of its leading byte. -/
def byteRows (mark : Nat) : Nat → Nat → Nat → List Row
  | 0, first, last => [[(mark + first, mark + last)]]
  | count + 1, first, last =>
    let block := 64 ^ (count + 1)
    let a := first / block
    let b := last / block
    let under (digit low high : Nat) :=
      (byteRows 0x80 count low high).map ((mark + digit, mark + digit) :: ·)
    if a = b then under a (first % block) (last % block)
    else
      let early := if first % block = 0 then [] else under a (first % block) (block - 1)
      let late := if last % block = block - 1 then [] else under b 0 (last % block)
      let start := if first % block = 0 then a else a + 1
      let stop := if last % block = block - 1 then b + 1 else b
      let whole :=
        if start < stop then
          [(mark + start, mark + (stop - 1)) :: List.replicate (count + 1) (0x80, 0xbf)]
        else []
      early ++ whole ++ late

/-- The part of an interval within bounds, as byte rows. -/
def clippedRows (mark count low high : Nat) (range : Nat × Nat) : List Row :=
  let first := max range.1 low
  let last := min range.2 high
  if first ≤ last then byteRows mark count first last else []

/-- The rows of a set, in order. -/
def utf8Rows (s : CharSet) : List Row :=
  s.ranges.flatMap fun range =>
    clippedRows 0x00 0 0x00 0x7f range ++ clippedRows 0xc0 1 0x80 0x7ff range ++
    clippedRows 0xe0 2 0x800 0xd7ff range ++ clippedRows 0xe0 2 0xe000 0xffff range ++
    clippedRows 0xf0 3 0x10000 0x10ffff range

/-- How many bytes a character takes. -/
def byteLength (code : Nat) : Nat :=
  if code ≤ 0x7f then 1 else if code ≤ 0x7ff then 2 else if code ≤ 0xffff then 3 else 4

end RecordValidation.Pattern
