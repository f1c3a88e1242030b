import ProseLint.Text.Unshown

/-!
# Quoted text

A text in a message stands between double quotes. Quotes, backslashes and common controls are
escaped by a backslash, and characters that are not shown are spelled by their code in braces.
-/

namespace ProseLint.Text.Quoted

/-- The code of a character in hexadecimal digits. -/
def hexCode (c : Char) : List Char := Nat.toDigits 16 c.toNat

/-- A character inside quotes. -/
def escape (c : Char) : List Char :=
  match c with
  | '\x00' => ['\\', '0']
  | '\t' => ['\\', 't']
  | '\r' => ['\\', 'r']
  | '\n' => ['\\', 'n']
  | '\\' => ['\\', '\\']
  | '\x22' => ['\\', '\x22']
  | c =>
    if c.toNat < 0x20 || c.toNat == 0x7F || Unshown.isUnshown c then
      ['\\', 'u', '\x7b'] ++ hexCode c ++ ['\x7d']
    else [c]

/-- A text between quotes. -/
def quote (text : String) : String :=
  String.ofList ('\x22' :: (text.toList.flatMap escape ++ ['\x22']))

end ProseLint.Text.Quoted
