/-!
Sets of code points, kept as closed intervals in increasing order with a gap
between any two. Unions, complements and what follows from them are computed
on the intervals, so a class of a hundred thousand characters stays small. A
set built from intervals holds what one of them holds, and a union what one of
the two sets holds.
-/

namespace RecordValidation

/-- A set of code points. Build one with `CharSet.ofRanges`, which puts the
intervals into order. -/
structure CharSet where
  ranges : List (Nat × Nat)
  deriving DecidableEq, Inhabited

namespace CharSet

/-- The last code point. -/
def lastCode : Nat := 0x10ffff

/-- Puts an interval before others that start no earlier, swallowing those it
meets or touches. -/
def attach (first last : Nat) : List (Nat × Nat) → List (Nat × Nat)
  | [] => [(first, last)]
  | (a, b) :: rest =>
    if a ≤ last + 1 then attach first (max last b) rest else (first, last) :: (a, b) :: rest

def ofRanges (ranges : List (Nat × Nat)) : CharSet :=
  ⟨(ranges.mergeSort fun r s => r.1 ≤ s.1).foldr (fun r rest => attach r.1 r.2 rest) []⟩

def empty : CharSet := ⟨[]⟩

def single (code : Nat) : CharSet := ⟨[(code, code)]⟩

def isEmpty (s : CharSet) : Bool := s.ranges.isEmpty

/-- Whether one of some intervals holds a code point. -/
def covers (ranges : List (Nat × Nat)) (code : Nat) : Bool :=
  ranges.any fun r => r.1 ≤ code && code ≤ r.2

def contains (s : CharSet) (code : Nat) : Bool := covers s.ranges code

def union (s t : CharSet) : CharSet := ofRanges (s.ranges ++ t.ranges)

/-- The code points next to another one. Surrogates stand for no character and
are passed over. -/
def after (code : Nat) : Nat := if code = 0xd7ff then 0xe000 else code + 1

def before (code : Nat) : Nat := if code = 0xe000 then 0xd7ff else code - 1

/-- The intervals from `next` to `top` that the given ones leave free. -/
def gaps (next top : Nat) : List (Nat × Nat) → List (Nat × Nat)
  | [] => if next ≤ top then [(next, top)] else []
  | (a, b) :: rest =>
    if next < a then (next, before a) :: gaps (after b) top rest else gaps (after b) top rest

/-- All code points up to `top` that are not in the set. -/
def complementTo (top : Nat) (s : CharSet) : CharSet := ⟨gaps 0 top s.ranges⟩

def complement (s : CharSet) : CharSet := s.complementTo lastCode

/-- What two lists of intervals in order have in common. Of the first two the one
that ends earlier meets nothing more. -/
def meet : List (Nat × Nat) → List (Nat × Nat) → List (Nat × Nat)
  | (a, b) :: s, (c, d) :: t =>
    let rest := if b < d then meet s ((c, d) :: t) else meet ((a, b) :: s) t
    if max a c ≤ min b d then (max a c, min b d) :: rest else rest
  | _, _ => []
termination_by s t => s.length + t.length

def inter (s t : CharSet) : CharSet := ⟨meet s.ranges t.ranges⟩

def diff (s t : CharSet) : CharSet := s.inter t.complement

def symmDiff (s t : CharSet) : CharSet := (s.union t).diff (s.inter t)

/-- Whether no member lies beyond `top`. -/
def within (top : Nat) (s : CharSet) : Bool := s.ranges.all fun r => r.2 ≤ top

theorem contains_empty (code : Nat) : empty.contains code = false := rfl

theorem contains_single (code c : Nat) : (single code).contains c = (code == c) := by
  simp only [contains, covers, single, List.any_cons, List.any_nil, Bool.or_false]
  rw [Bool.eq_iff_iff]
  simp
  omega

theorem covers_attach (first last code : Nat) (rest : List (Nat × Nat))
    (h : ∀ r ∈ rest, first ≤ r.1) :
    covers (attach first last rest) code =
      ((first ≤ code && code ≤ last) || covers rest code) := by
  induction rest generalizing last with
  | nil => simp [attach, covers]
  | cons r rest ih =>
    obtain ⟨a, b⟩ := r
    have ha : first ≤ a := h (a, b) (List.mem_cons_self ..)
    rw [attach]
    split
    · next meets =>
      rw [ih _ fun r hr => h r (List.mem_cons_of_mem _ hr)]
      simp only [covers, List.any_cons]
      rw [← Bool.or_assoc]
      congr 1
      rw [Bool.eq_iff_iff]
      simp
      omega
    · rfl

/-- Attaching an interval brings no start but its own. -/
theorem start_of_mem_attach {first last : Nat} {rest : List (Nat × Nat)} {r : Nat × Nat}
    (h : r ∈ attach first last rest) : r.1 = first ∨ ∃ q ∈ rest, q.1 = r.1 := by
  induction rest generalizing last with
  | nil => simp_all [attach]
  | cons q rest ih =>
    rw [attach] at h
    split at h
    · rcases ih h with h | ⟨p, hp, he⟩
      · exact .inl h
      · exact .inr ⟨p, List.mem_cons_of_mem _ hp, he⟩
    · rcases List.mem_cons.1 h with h | h
      · exact .inl (by rw [h])
      · exact .inr ⟨r, h, rfl⟩

theorem start_of_mem_foldr_attach {ranges : List (Nat × Nat)} {r : Nat × Nat}
    (h : r ∈ ranges.foldr (fun r rest => attach r.1 r.2 rest) []) :
    ∃ q ∈ ranges, q.1 = r.1 := by
  induction ranges generalizing r with
  | nil => simp at h
  | cons p rest ih =>
    rcases start_of_mem_attach h with h | ⟨q, hq, he⟩
    · exact ⟨p, List.mem_cons_self .., h.symm⟩
    · obtain ⟨o, ho, h⟩ := ih hq
      exact ⟨o, List.mem_cons_of_mem _ ho, h.trans he⟩

theorem covers_foldr_attach (ranges : List (Nat × Nat)) (code : Nat)
    (h : ranges.Pairwise fun r s => r.1 ≤ s.1) :
    covers (ranges.foldr (fun r rest => attach r.1 r.2 rest) []) code = covers ranges code := by
  induction ranges with
  | nil => rfl
  | cons r rest ih =>
    rw [List.foldr_cons, covers_attach, ih h.of_cons]
    · rfl
    · intro q hq
      obtain ⟨p, hp, he⟩ := start_of_mem_foldr_attach hq
      exact he ▸ List.rel_of_pairwise_cons h hp

theorem contains_ofRanges (ranges : List (Nat × Nat)) (code : Nat) :
    (ofRanges ranges).contains code = covers ranges code := by
  have sorted : (ranges.mergeSort fun r s => r.1 ≤ s.1).Pairwise fun r s => r.1 ≤ s.1 := by
    refine (List.pairwise_mergeSort ?_ ?_ ranges).imp of_decide_eq_true <;> simp <;> omega
  rw [contains, ofRanges, covers_foldr_attach _ _ sorted]
  exact (List.mergeSort_perm ..).any_eq

theorem contains_union (s t : CharSet) (code : Nat) :
    (s.union t).contains code = (s.contains code || t.contains code) := by
  rw [union, contains_ofRanges]
  exact List.any_append ..

end CharSet

end RecordValidation
