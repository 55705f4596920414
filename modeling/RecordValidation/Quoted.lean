import RecordValidation.Character.Class

/-!
Quoted text. Quotes, backslashes and four control characters have short escapes;
what can not be seen, or would attach itself to the character before, is given
by its number.
-/

namespace RecordValidation.Quoted

/-- Characters that are written by their number. -/
def numbered : CharSet := (CharClass.invisible.union CharClass.extending).diff Recent.visible

def lowerHex (n : Nat) : List Char := Nat.toDigits 16 n

def escape (c : Char) : List Char :=
  match c with
  | '"' => ['\\', '"']
  | '\\' => ['\\', '\\']
  | '\x00' => ['\\', '0']
  | '\t' => ['\\', 't']
  | '\r' => ['\\', 'r']
  | '\n' => ['\\', 'n']
  | c =>
    if numbered.contains c.toNat then ['\\', 'u', '\x7b'] ++ lowerHex c.toNat ++ ['\x7d'] else [c]

def encode (text : String) : String :=
  String.ofList ('"' :: text.toList.flatMap escape ++ ['"'])

/-- Several texts in brackets. -/
def encodeList (texts : List String) : String :=
  "[" ++ ", ".intercalate (texts.map encode) ++ "]"

end RecordValidation.Quoted
