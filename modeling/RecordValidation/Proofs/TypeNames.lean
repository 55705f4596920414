import Mathlib
import RecordValidation.Blueprint

/-!
The names of record types. A record type is called by the own name of its definition, which
stands in its full name behind the path and before the arguments. Names are read up to the
first angle bracket, so the own name is found if no bracket stands in the path. In a path
with brackets, as those of local definitions can be, what stands before the bracket is taken
for the whole name.
-/

namespace RecordValidation

/-- The full name of a type: the path to its definition, its own name, and the arguments of
a generic type. -/
structure TypeName where
  path : Option String
  name : String
  arguments : Option String
  name_ne : name ≠ ""
  colon : ':' ∉ name.toList
  opening : '<' ∉ name.toList
  closing : '>' ∉ name.toList

namespace TypeName

variable (n : TypeName)

/-- The path with the colons behind it. -/
def pathChars : List Char := n.path.elim [] fun path => path.toList ++ [':', ':']

def argumentChars : List Char := n.arguments.elim [] fun args => '<' :: args.toList ++ ['>']

/-- The full name as it is written. -/
def text : String := String.ofList (n.pathChars ++ n.name.toList ++ n.argumentChars)

end TypeName

namespace RecordType

/-- What is read of a name. -/
def base (fullName : String) : List Char := fullName.toList.takeWhile (· ≠ '<')

theorem label_eq (fullName : String) :
    label fullName = String.ofList (label.upToPath (base fullName).reverse).reverse := rfl

/-- Text after the first angle bracket is not read. -/
theorem label_congr {a b : String} (h : base a = base b) : label a = label b := by
  rw [label_eq, label_eq, h]

theorem takeWhile_append_bracket {outer : List Char} (h : '<' ∉ outer) (rest : List Char) :
    (outer ++ '<' :: rest).takeWhile (· ≠ '<') = outer := by
  have houter : ∀ c ∈ outer, decide (c ≠ '<') = true := by
    intro c hc
    have hne : c ≠ '<' := fun heq => h (heq ▸ hc)
    simpa using hne
  rw [List.takeWhile_append_of_pos houter]
  simp

theorem takeWhile_of_not_mem {outer : List Char} (h : '<' ∉ outer) :
    outer.takeWhile (· ≠ '<') = outer := by
  rw [List.takeWhile_eq_self_iff]
  intro c hc
  have hne : c ≠ '<' := fun heq => h (heq ▸ hc)
  simpa using hne

theorem upToPath_append {name : List Char} (h : ':' ∉ name) (rest : List Char) :
    label.upToPath (name ++ rest) = name ++ label.upToPath rest := by
  induction name with
  | nil => rfl
  | cons c name ih =>
    rw [List.mem_cons, not_or] at h
    have hstep : label.upToPath (c :: (name ++ rest)) = c :: label.upToPath (name ++ rest) := by
      rw [label.upToPath]
      intro _ hc
      exact absurd hc.symm h.1
    rw [List.cons_append, hstep, ih h.2, List.cons_append]

/-- The part of a name behind the last double colon. -/
theorem label_of_base {fullName : String} {path name : List Char} (hname : ':' ∉ name)
    (hpath : path = [] ∨ ∃ outer, path = outer ++ [':', ':'])
    (hbase : base fullName = path ++ name) : label fullName = String.ofList name := by
  have hreverse : ':' ∉ name.reverse := fun h => hname (List.mem_reverse.mp h)
  have hstop : label.upToPath path.reverse = [] := by
    rcases hpath with rfl | ⟨outer, rfl⟩
    · rfl
    · rw [List.reverse_append]
      rfl
  rw [label_eq, hbase, List.reverse_append, upToPath_append hreverse, hstop, List.append_nil,
    List.reverse_reverse]

end RecordType

namespace TypeName

open RecordType (base label)

variable (n : TypeName)

theorem toList_text : n.text.toList = n.pathChars ++ n.name.toList ++ n.argumentChars :=
  String.toList_ofList

/-- Without brackets in the path, the path and the own name are read. -/
theorem base_text (h : ∀ path, n.path = some path → '<' ∉ path.toList) :
    base n.text = n.pathChars ++ n.name.toList := by
  have hpath : '<' ∉ n.pathChars ++ n.name.toList := by
    rw [List.mem_append, not_or]
    refine ⟨?_, n.opening⟩
    unfold pathChars
    cases hn : n.path with
    | none => exact List.not_mem_nil
    | some path =>
      have hnot := h path hn
      simp [hnot]
  rw [base, toList_text]
  unfold argumentChars
  cases n.arguments with
  | none =>
    rw [Option.elim_none, List.append_nil]
    exact RecordType.takeWhile_of_not_mem hpath
  | some args => exact RecordType.takeWhile_append_bracket hpath _

/-- With a bracket in the path, nothing behind the bracket is read. -/
theorem base_text_of_bracket {outer rest : String} (hpath : n.path = some (outer ++ "<" ++ rest))
    (houter : '<' ∉ outer.toList) : base n.text = outer.toList := by
  have htext : ∃ behind, n.text.toList = outer.toList ++ '<' :: behind := by
    rw [toList_text, pathChars, hpath]
    refine ⟨rest.toList ++ [':', ':'] ++ n.name.toList ++ n.argumentChars, ?_⟩
    simp
  obtain ⟨behind, hbehind⟩ := htext
  rw [base, hbehind]
  exact RecordType.takeWhile_append_bracket houter behind

/-- A type is called by its own name if there is no angle bracket in the path to it. -/
theorem label_text (h : ∀ path, n.path = some path → '<' ∉ path.toList) :
    label n.text = n.name := by
  have hshape : n.pathChars = [] ∨ ∃ outer, n.pathChars = outer ++ [':', ':'] := by
    unfold pathChars
    cases n.path with
    | none => exact .inl rfl
    | some path => exact .inr ⟨path.toList, rfl⟩
  rw [RecordType.label_of_base n.colon hshape (n.base_text h), String.ofList_toList]

/-- With a bracket in the path, a type is called as if what stands before the first bracket
were its full name. -/
theorem label_text_of_bracket {outer rest : String} (hpath : n.path = some (outer ++ "<" ++ rest))
    (houter : '<' ∉ outer.toList) : label n.text = label outer := by
  have hbase : base outer = outer.toList := RecordType.takeWhile_of_not_mem houter
  apply RecordType.label_congr
  rw [n.base_text_of_bracket hpath houter, hbase]

/-- A type has no name at all if the path begins with a bracket, as it does for a type that is
defined within a method of a trait, or if a bracket stands where a name should begin. -/
theorem label_text_eq_empty {outer rest : String} (hpath : n.path = some (outer ++ "<" ++ rest))
    (houter : '<' ∉ outer.toList) (h : outer = "" ∨ ∃ before, outer = before ++ "::") :
    label n.text = "" := by
  have hshape : outer.toList = [] ∨ ∃ before, outer.toList = before ++ [':', ':'] := by
    rcases h with rfl | ⟨before, rfl⟩
    · exact .inl rfl
    · exact .inr ⟨before.toList, by simp⟩
  have hbase : base n.text = outer.toList ++ [] := by
    rw [n.base_text_of_bracket hpath houter, List.append_nil]
  exact RecordType.label_of_base List.not_mem_nil hshape hbase

example : label "app::lists::Page<app::models::User>" = "Page" ∧
    label "<a::A as a::T>::m::Local" = "" := by
  decide

end TypeName

end RecordValidation
