import RecordValidation.Character.Class
import RecordValidation.Pattern.Expr

/-!
Reading patterns. The reader goes through the characters once, with the groups
it has opened on a stack. In verbose stretches blanks and comments between the
parts of a pattern are passed over.
-/

namespace RecordValidation.Pattern

-- Powers are the core library's, whatever else is in scope.
attribute [local instance (high)] instPowNat

def isSpace (c : Char) : Bool := CharClass.spaces.contains c.toNat

def isHex (c : Char) : Bool := (Table.hexDigit? c).isSome

/-- Passes over blanks and comments. The flag says whether the text starts
within a comment. -/
def skipBlanks : Bool → List Char → List Char
  | _, [] => []
  | true, c :: rest => skipBlanks (c ≠ '\n') rest
  | false, c :: rest =>
    if isSpace c then skipBlanks false rest
    else if c = '#' then skipBlanks true rest
    else c :: rest

/-- Passes over what does not count, which is nothing outside verbose stretches. -/
def skip (verbose : Bool) (text : List Char) : List Char :=
  if verbose then skipBlanks false text else text

/-- Takes at most `count` acceptable characters, passing over blanks before
each, and gives what was taken and what is left. -/
def gather (verbose : Bool) (accepts : Char → Bool) :
    Nat → Bool → List Char → List Char × List Char
  | 0, _, text => ([], text)
  | _, _, [] => ([], [])
  | count, true, c :: rest => gather verbose accepts count (c ≠ '\n') rest
  | count + 1, false, c :: rest =>
    if verbose && isSpace c then gather verbose accepts (count + 1) false rest
    else if verbose && c = '#' then gather verbose accepts (count + 1) true rest
    else if accepts c then
      let (taken, left) := gather verbose accepts count false rest
      (c :: taken, left)
    else ([], c :: rest)

/-- Takes acceptable characters as long as there are any. -/
def gatherAll (verbose : Bool) (accepts : Char → Bool) (text : List Char) :
    List Char × List Char :=
  gather verbose accepts (text.length + 1) false text

/-- Code points that are characters. -/
def isScalar (code : Nat) : Bool :=
  code < 0xd800 || (0xdfff < code && code ≤ CharSet.lastCode)

def literalOfHex (digits : List Char) (bare : Bool) : Except PatternError Literal :=
  let code := Table.hexNumber digits
  if !digits.isEmpty && isScalar code then .ok ⟨code, bare⟩ else .error .badEscape

/-- A character by its number: so many digits, or any number of them in braces. -/
def readHex (verbose : Bool) (count : Nat) (text : List Char) :
    Except PatternError (Literal × List Char) :=
  match skip verbose text with
  | '\x7b' :: rest =>
    match gatherAll verbose isHex rest with
    | (digits, '\x7d' :: left) => do return (← literalOfHex digits false, left)
    | _ => .error .badEscape
  | rest =>
    let (digits, left) := gather verbose isHex count false rest
    if digits.length = count then do return (← literalOfHex digits (count = 2), left)
    else .error .badEscape

/-- The class with a name, which is divided at `!=`, or else at the first colon,
or else at the first equality sign. The sign `!=` negates the class once more. -/
def classOfName (negated : Bool) (name : List Char) : ClassExpr :=
  let rec unequal : List Char → Option (List Char × List Char)
    | '!' :: '=' :: rest => some ([], rest)
    | c :: rest => (unequal rest).map fun (before, after) => (c :: before, after)
    | [] => none
  match unequal name, cut ':' name, cut '=' name with
  | some (property, value), _, _ => .property (!negated) (.valued property value)
  | none, (property, some value), _ => .property negated (.valued property value)
  | none, (_, none), (property, some value) => .property negated (.valued property value)
  | none, (_, none), (_, none) => .property negated (.named name)

/-- A class named by one letter, or by a name in braces. -/
def readProperty (verbose negated : Bool) (text : List Char) :
    Except PatternError (ClassExpr × List Char) :=
  match skip verbose text with
  | '\x7b' :: rest =>
    match gatherAll verbose (· ≠ '\x7d') rest with
    | (name, _ :: left) => .ok (classOfName negated name, left)
    | _ => .error .badEscape
  | c :: rest =>
    if c = '\\' then .error .unknownClass
    else .ok (.property negated (.named [c]), skip verbose rest)
  | [] => .error .badEscape

/-- What an escape can stand for. -/
inductive Primitive
  | literal (l : Literal)
  | chars (c : ClassExpr)
  | anchor (a : Anchor)

/-- The word boundary after `\b`, which braces may narrow down. Braces that do
not begin with a letter or hyphen are left for the counts. -/
def readBoundary (verbose : Bool) (text : List Char) :
    Except PatternError (Primitive × List Char) :=
  let nameChar (c : Char) : Bool := c.isAlpha || c = '-'
  match text with
  | '\x7b' :: rest =>
    match skip verbose rest with
    | [] => .error .badEscape
    | c :: inner =>
      if !nameChar c then .ok (.anchor .wordBoundary, text)
      else match gatherAll verbose nameChar (c :: inner) with
        | (name, '\x7d' :: left) =>
          match String.ofList name with
          | "start" => .ok (.anchor .wordStart, left)
          | "end" => .ok (.anchor .wordEnd, left)
          | "start-half" => .ok (.anchor .wordStartHalf, left)
          | "end-half" => .ok (.anchor .wordEndHalf, left)
          | _ => .error .badEscape
        | _ => .error .badEscape
  | _ => .ok (.anchor .wordBoundary, text)

/-- Whether an escaped character stands for itself: every ASCII character but
letters, digits and angle brackets. -/
def isEscapable (c : Char) : Bool :=
  c.toNat ≤ 0x7f && !c.isAlphanum && c ≠ '<' && c ≠ '>'

/-- What follows a backslash. -/
def readEscape (verbose : Bool) : List Char → Except PatternError (Primitive × List Char)
  | [] => .error .badEscape
  | c :: rest =>
    let hex (count : Nat) := do
      let (l, left) ← readHex verbose count rest
      return (.literal l, left)
    let property (negated : Bool) := do
      let (found, left) ← readProperty verbose negated rest
      return (.chars found, left)
    let special (code : Nat) := .ok (.literal ⟨code, false⟩, rest)
    let short (negated : Bool) (which : ShortClass) := .ok (.chars (.short negated which), rest)
    if c.isDigit then .error .backReference
    else if isEscapable c then special c.toNat
    else match c with
      | 'x' => hex 2
      | 'u' => hex 4
      | 'U' => hex 8
      | 'p' => property false
      | 'P' => property true
      | 'd' => short false .digit
      | 'D' => short true .digit
      | 's' => short false .space
      | 'S' => short true .space
      | 'w' => short false .word
      | 'W' => short true .word
      | 'a' => special 0x07
      | 'f' => special 0x0c
      | 't' => special 0x09
      | 'n' => special 0x0a
      | 'r' => special 0x0d
      | 'v' => special 0x0b
      | 'A' => .ok (.anchor .textStart, rest)
      | 'z' => .ok (.anchor .textEnd, rest)
      | 'b' => readBoundary verbose rest
      | 'B' => .ok (.anchor .notWordBoundary, rest)
      | '<' => .ok (.anchor .wordStart, rest)
      | '>' => .ok (.anchor .wordEnd, rest)
      | _ => .error .badEscape

/-! Classes in brackets. -/

/-- The classes of ASCII characters that have a name between `[:` and `:]`. -/
def asciiClasses : List (String × List (Nat × Nat)) :=
  [("alnum", [(0x30, 0x39), (0x41, 0x5a), (0x61, 0x7a)]),
   ("alpha", [(0x41, 0x5a), (0x61, 0x7a)]),
   ("ascii", [(0x00, 0x7f)]),
   ("blank", [(0x09, 0x09), (0x20, 0x20)]),
   ("cntrl", [(0x00, 0x1f), (0x7f, 0x7f)]),
   ("digit", [(0x30, 0x39)]),
   ("graph", [(0x21, 0x7e)]),
   ("lower", [(0x61, 0x7a)]),
   ("print", [(0x20, 0x7e)]),
   ("punct", [(0x21, 0x2f), (0x3a, 0x40), (0x5b, 0x60), (0x7b, 0x7e)]),
   ("space", [(0x09, 0x0d), (0x20, 0x20)]),
   ("upper", [(0x41, 0x5a)]),
   ("word", [(0x30, 0x39), (0x41, 0x5a), (0x5f, 0x5f), (0x61, 0x7a)]),
   ("xdigit", [(0x30, 0x39), (0x41, 0x46), (0x61, 0x66)])]

/-- A named ASCII class, if the text after an opening bracket is one. -/
def asciiClass? (text : List Char) : Option (ClassExpr × List Char) :=
  let named (negated : Bool) (text : List Char) :=
    match text.dropWhile (· ≠ ':') with
    | ':' :: ']' :: left =>
      (asciiClasses.find? (·.1 == String.ofList (text.takeWhile (· ≠ ':')))).map
        fun entry => (.ascii negated entry.2, left)
    | _ => none
  match text with
  | ':' :: '^' :: rest => named true rest
  | ':' :: rest => named false rest
  | _ => none

/-- The items read so far between two operators of a class, last first, and
the operator and left side that wait for them. -/
structure ClassLevel where
  items : List ClassExpr := []
  pending : Option (ClassOp × ClassExpr) := none

/-- The class that a level amounts to. Operators bind from the left. -/
def ClassLevel.close (level : ClassLevel) : ClassExpr :=
  let last := ClassExpr.ofItems level.items.reverse
  match level.pending with
  | some (op, left) => .combined op left last
  | none => last

/-- What stands right after an opening bracket: a sign of negation, and the
hyphens or closing bracket that stand for themselves there. -/
def openClass (verbose : Bool) (text : List Char) :
    Except PatternError (Bool × ClassLevel × List Char) :=
  let (negated, text) :=
    match skip verbose text with
    | '^' :: rest => (true, skip verbose rest)
    | rest => (false, rest)
  let (hyphens, text) := gatherAll verbose (· = '-') text
  match hyphens, text with
  | _, [] => .error .unclosedClass
  | [], ']' :: rest =>
    match skip verbose rest with
    | [] => .error .unclosedClass
    | left => .ok (negated, { items := [.literal ⟨0x5d, false⟩] }, left)
  | _, _ =>
    .ok (negated, { items := hyphens.map fun c => .literal ⟨c.toNat, false⟩ }, text)

/-- A character or escape within a class. -/
def readClassPrimitive (verbose : Bool) : List Char →
    Except PatternError (Primitive × List Char)
  | '\\' :: rest => readEscape verbose rest
  | c :: rest => .ok (.literal ⟨c.toNat, false⟩, rest)
  | [] => .error .unclosedClass

def Primitive.asItem : Primitive → Except PatternError ClassExpr
  | .literal l => .ok (.literal l)
  | .chars c => .ok c
  | .anchor _ => .error .badEscape

def Primitive.asLiteral : Primitive → Except PatternError Literal
  | .literal l => .ok l
  | _ => .error .badClassRange

/-- The character that decides about a hyphen. In verbose stretches blanks are
passed over, and the sign of a comment is taken for a blank. -/
def afterHyphen (verbose : Bool) (text : List Char) : Option Char :=
  if verbose then
    let past :=
      match text.dropWhile isSpace with
      | '#' :: rest => rest.dropWhile isSpace
      | rest => rest
    past.head? <|> text.head?
  else text.head?

/-- An item of a class: a character, an escape, or a range from one character
to another. A hyphen before a closing bracket or another hyphen makes no range. -/
def readClassItem (verbose : Bool) (text : List Char) :
    Except PatternError (ClassExpr × List Char) := do
  let (first, left) ← readClassPrimitive verbose text
  match skip verbose left with
  | [] => throw .unclosedClass
  | '-' :: rest =>
    if afterHyphen verbose rest ∈ [some ']', some '-'] then
      return (← first.asItem, '-' :: rest)
    let (last, left) ← readClassPrimitive verbose (skip verbose rest)
    let first ← first.asLiteral
    let last ← last.asLiteral
    if last.code < first.code then throw .badClassRange
    return (.range first last, left)
  | left => return (← first.asItem, left)

/-- Reads a class up to its closing bracket. On the stack stand the brackets
that are open, each with whether it is negated and the level it stands in. -/
def readClass (verbose : Bool) : Nat → List (Bool × ClassLevel) → ClassLevel → List Char →
    Except PatternError (ClassExpr × List Char)
  | 0, _, _, _ => .error .unclosedClass
  | fuel + 1, stack, level, text =>
    let combine (op : ClassOp) (rest : List Char) :=
      readClass verbose fuel stack { pending := some (op, level.close) } rest
    match skip verbose text with
    | [] => .error .unclosedClass
    | '[' :: rest =>
      match asciiClass? rest with
      | some (item, left) =>
        readClass verbose fuel stack { level with items := item :: level.items } left
      | none => do
        let (negated, inner, left) ← openClass verbose rest
        readClass verbose fuel ((negated, level) :: stack) inner left
    | ']' :: rest =>
      match stack with
      | [] => .error .unclosedClass
      | [(negated, _)] => .ok (.bracketed negated level.close, rest)
      | (negated, outer) :: stack =>
        let item := .bracketed negated level.close
        readClass verbose fuel stack { outer with items := item :: outer.items } rest
    | '&' :: '&' :: rest => combine .intersection rest
    | '-' :: '-' :: rest => combine .difference rest
    | '~' :: '~' :: rest => combine .symmetricDifference rest
    | text => do
      let (item, left) ← readClassItem verbose text
      readClass verbose fuel stack { level with items := item :: level.items } left

/-! Counts and groups. -/

/-- A number within the braces of a count. -/
def readCount (verbose : Bool) (text : List Char) : Except PatternError (Nat × List Char) :=
  let (digits, left) := gatherAll verbose Char.isDigit (text.dropWhile isSpace)
  let count := digits.foldl (fun n c => n * 10 + (c.toNat - 0x30)) 0
  if digits.isEmpty || 2 ^ (32 : Nat) ≤ count then .error .badCount
  else .ok (count, left.dropWhile isSpace)

/-- The counts after an opening brace: the least and the greatest number of
repetitions, if there is a greatest. -/
def readCounts (verbose : Bool) (text : List Char) :
    Except PatternError (Nat × Option Nat × List Char) := do
  let (least, left) ← readCount verbose (skip verbose text)
  let (most, left) ←
    match left with
    | ',' :: rest =>
      match skip verbose rest with
      | '\x7d' :: left => pure (none, '\x7d' :: left)
      | rest => do
        let (most, left) ← readCount verbose rest
        pure (some most, left)
    | left => pure (some least, left)
  match left with
  | '\x7d' :: left =>
    if most.any (· < least) then throw .badCount
    match skip verbose left with
    | '?' :: left => return (least, most, left)
    | left => return (least, most, left)
  | _ => throw .badCount

def flagItem? : Char → Option FlagItem
  | '-' => some .negation
  | 'i' => some (.flag .ignoreCase)
  | 'm' => some (.flag .multiLine)
  | 's' => some (.flag .dotAll)
  | 'U' => some (.flag .swapGreed)
  | 'u' => some (.flag .unicode)
  | 'R' => some (.flag .anyLineEnd)
  | 'x' => some (.flag .verbose)
  | _ => none

/-- The items of a flag group up to the colon or parenthesis that ends it. None
may come twice, and a sign of negation must have a flag after it. -/
def readFlags : List FlagItem → List Char → Except PatternError (List FlagItem × List Char)
  | _, [] => .error .badFlags
  | read, c :: rest =>
    if c = ':' ∨ c = ')' then
      if read.head? = some .negation then .error .badFlags else .ok (read.reverse, c :: rest)
    else
      match flagItem? c with
      | none => .error .badFlags
      | some item => if item ∈ read then .error .badFlags else readFlags (item :: read) rest

/-- Whether a character may stand in the name of a group, at its start or later. -/
def isNameChar (first : Bool) (c : Char) : Bool :=
  c = '_' || (if first then CharClass.letters.contains c.toNat
    else c ∈ ['.', '[', ']'] || CharClass.alphanumeric.contains c.toNat)

/-- The name of a group, up to the bracket that ends it. -/
def readGroupName (text : List Char) : Except PatternError (List Char × List Char) :=
  let name := text.takeWhile (· ≠ '>')
  match name, text.dropWhile (· ≠ '>') with
  | c :: more, _ :: left =>
    if isNameChar true c && more.all (isNameChar false) then .ok (name, left)
    else .error .badGroupName
  | _, _ => .error .badGroupName

/-- What has been read of a group: the branches that are complete and the items
of the one at hand, last first. -/
structure Level where
  branches : List Expr := []
  items : List Expr := []

def Level.branch (level : Level) : Expr := .ofItems level.items.reverse

def Level.close (level : Level) : Expr :=
  if level.branches.isEmpty then level.branch
  else .alternatives (level.branches.reverse ++ [level.branch])

def Level.add (level : Level) (e : Expr) : Level := { level with items := e :: level.items }

/-- Repeats the last item, which must be there and not be a change of flags. -/
def Level.repeatLast (level : Level) (least : Nat) (most : Option Nat) :
    Except PatternError Level :=
  match level.items with
  | [] | .flags _ :: _ => .error .nothingToRepeat
  | e :: items => .ok { level with items := .repeated least most e :: items }

/-- A group that is open: its kind, whether the text around it is verbose, and
what has been read there. -/
structure OpenGroup where
  kind : GroupKind
  verbose : Bool
  outer : Level

structure Reader where
  verbose : Bool := false
  names : List (List Char) := []
  level : Level := {}
  stack : List OpenGroup := []

/-- Opens a group whose text is verbose as its flags say. -/
def Reader.push (r : Reader) (kind : GroupKind) (verbose : Bool) : Reader :=
  { r with verbose, level := {}, stack := ⟨kind, r.verbose, r.level⟩ :: r.stack }

/-- What stands after an opening parenthesis. -/
def Reader.openGroup (r : Reader) (text : List Char) :
    Except PatternError (Reader × List Char) :=
  let named (rest : List Char) := do
    let (name, left) ← readGroupName rest
    if name ∈ r.names then throw .repeatedGroupName
    return ({ r with names := name :: r.names }.push .capture r.verbose, left)
  match skip r.verbose text with
  | '?' :: '=' :: _ | '?' :: '!' :: _ | '?' :: '<' :: '=' :: _ | '?' :: '<' :: '!' :: _ =>
    .error .lookAround
  | '?' :: 'P' :: '<' :: rest => named rest
  | '?' :: '<' :: rest => named rest
  | '?' :: rest => do
    let (items, left) ← readFlags [] rest
    let verbose := (flagState .verbose true items).getD r.verbose
    match left with
    | ')' :: left =>
      if items.isEmpty then throw .nothingToRepeat
      return ({ r with verbose, level := r.level.add (.flags items) }, left)
    | left => return (r.push (.flagged items) verbose, left.drop 1)
  | rest => .ok (r.push .capture r.verbose, rest)

def Reader.closeGroup (r : Reader) : Except PatternError Reader :=
  match r.stack with
  | [] => .error .unopenedGroup
  | ⟨kind, verbose, outer⟩ :: stack =>
    .ok { r with verbose, stack, level := outer.add (.group kind r.level.close) }

/-- Repeats the last item. A question mark that follows at once belongs to the
repetition. -/
def Reader.repeated (r : Reader) (least : Nat) (most : Option Nat) (text : List Char) :
    Except PatternError (Reader × List Char) := do
  let level ← r.level.repeatLast least most
  return ({ r with level }, if text.head? = some '?' then text.drop 1 else text)

/-- Reads one part of a pattern, which starts with the given character. -/
def Reader.step (r : Reader) (c : Char) (rest : List Char) :
    Except PatternError (Reader × List Char) :=
  let add (e : Expr) (left : List Char) := .ok ({ r with level := r.level.add e }, left)
  match c with
  | '(' => r.openGroup rest
  | ')' => do return (← r.closeGroup, rest)
  | '|' =>
    .ok ({ r with level := { branches := r.level.branch :: r.level.branches } }, rest)
  | '[' => do
    let (negated, level, left) ← openClass r.verbose rest
    let (found, left) ← readClass r.verbose (left.length + 1) [(negated, {})] level left
    add (.chars found) left
  | '?' => r.repeated 0 (some 1) rest
  | '*' => r.repeated 0 none rest
  | '+' => r.repeated 1 none rest
  | '\x7b' => do
    let _ ← r.level.repeatLast 0 none
    let (least, most, left) ← readCounts r.verbose rest
    return ({ r with level := ← r.level.repeatLast least most }, left)
  | '\\' => do
    match ← readEscape r.verbose rest with
    | (.literal l, left) => add (.literal l) left
    | (.chars found, left) => add (.chars found) left
    | (.anchor a, left) => add (.anchor a) left
  | '.' => add .dot rest
  | '^' => add (.anchor .lineStart) rest
  | '$' => add (.anchor .lineEnd) rest
  | c => add (.literal ⟨c.toNat, false⟩) rest

/-- Reads part after part. Each takes a character, so as many steps as there
are characters are enough. -/
def Reader.run : Nat → Reader → List Char → Except PatternError Expr
  | 0, _, _ => .error .unclosedGroup
  | fuel + 1, r, text =>
    match skip r.verbose text with
    | [] => if r.stack.isEmpty then .ok r.level.close else .error .unclosedGroup
    | c :: rest => do
      let (r, left) ← r.step c rest
      r.run fuel left

def Expr.ofChars? (text : List Char) : Except PatternError Expr :=
  Reader.run (text.length + 1) {} text

end RecordValidation.Pattern
