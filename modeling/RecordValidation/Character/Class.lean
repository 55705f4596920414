import RecordValidation.Character.Age
import RecordValidation.Character.Folding
import RecordValidation.Character.Property
import RecordValidation.Character.Recent
import RecordValidation.Character.Script
import RecordValidation.Character.Segmentation

/-!
Classes of characters by name. Names are compared loosely: case, spaces,
hyphens, underscores and a leading `is` make no difference.
-/

namespace RecordValidation.CharClass

/-- The characters of a name that count, in lower case. -/
def significant (name : List Char) : List Char :=
  (name.filter fun c => c.toNat ≤ 0x7f ∧ c ∉ [' ', '_', '-']).map Char.toLower

/-- A name in its loose form. The name `isc` stands for itself, as without its
first two letters it would be another one. -/
def looseName : List Char → String
  | i :: s :: rest =>
    if i.toLower = 'i' ∧ s.toLower = 's' then
      if significant rest = ['c'] then "isc" else String.ofList (significant rest)
    else String.ofList (significant (i :: s :: rest))
  | name => String.ofList (significant name)

/-- The class of a bare name, which may be that of a property, a general
category or a script. -/
def named? (name : List Char) : Option CharSet :=
  let name := looseName name
  CharProperty.named? name <|> Category.named? name <|> (Script.code? name).map Script.chars

/-- The class of the characters for which a property has the given value. -/
def valued? (property value : List Char) : Option CharSet :=
  let property := looseName property
  let value := looseName value
  if property ∈ ["gc", "generalcategory"] then Category.named? value
  else if property ∈ ["sc", "script"] then (Script.code? value).map Script.chars
  else if property ∈ ["scx", "scriptextensions"] then (Script.code? value).map Script.charsInUse
  else if property = "age" then (Age.version? value).map Age.chars
  else if property ∈ ["gcb", "graphemeclusterbreak"] then
    Segmentation.graphemes.named? value
  else if property ∈ ["wb", "wordbreak"] then Segmentation.words.named? value
  else if property ∈ ["sb", "sentencebreak"] then Segmentation.sentences.named? value
  else none

def digits : CharSet := Category.chars ["Nd"]

def spaces : CharSet := CharProperty.named "whitespace"

def alphabetic : CharSet := CharProperty.named "alphabetic"

/-- The characters that words are made of. -/
def wordChars : CharSet :=
  (alphabetic.union (Category.chars (Category.markCodes ++ ["Nd", "Pc"]))).union
    (CharProperty.named "joincontrol")

/-- Letters and what goes with them, in names. -/
def letters : CharSet := alphabetic.union Recent.letters

/-- Letters and numbers, in names. -/
def alphanumeric : CharSet :=
  (letters.union (Category.chars Category.numberCodes)).union Recent.numbers

/-- Characters with no visible form of their own, the plain space aside. -/
def invisible : CharSet :=
  ((Category.chars ["Cc", "Cf", "Cs", "Co", "Cn", "Zl", "Zp", "Zs"]).union
    (CharProperty.named "defaultignorablecodepoint")).diff (.single 0x20)

/-- Marks that extend the character before them. -/
def extending : CharSet :=
  (CharProperty.named "graphemeextend").inter (Category.chars Category.markCodes)

end RecordValidation.CharClass
