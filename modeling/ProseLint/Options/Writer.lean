/-!
# Writing options

Options are written as a JSON object without spaces. Quotes, backslashes and control characters of
the excludes are escaped; all else stands for itself.
-/

namespace ProseLint.Options

/-- The hexadecimal digit of a number below sixteen. -/
def hexDigit (n : Nat) : Char := (Nat.toDigits 16 n).headD '0'

/-- A character inside a string. -/
def writeChar (c : Char) : List Char :=
  match c with
  | '\x22' => ['\\', '\x22']
  | '\\' => ['\\', '\\']
  | '\x08' => ['\\', 'b']
  | '\t' => ['\\', 't']
  | '\n' => ['\\', 'n']
  | '\x0c' => ['\\', 'f']
  | '\r' => ['\\', 'r']
  | c =>
    if c.toNat < 0x20 then ['\\', 'u', '0', '0', hexDigit (c.toNat / 16), hexDigit (c.toNat % 16)]
    else [c]

/-- A string between its quotes. -/
def writeString (text : String) : List Char := '\x22' :: (text.toList.flatMap writeChar ++ ['\x22'])

/-- A list of strings between its brackets. -/
def writeList (texts : List String) : List Char :=
  '[' :: ((texts.map writeString).intersperse [',']).flatten ++ [']']

/-- The text that stands for some excludes. -/
def write (excludes : List String) : List Char :=
  '\x7b' :: (writeString "excludes" ++ ':' :: (writeList excludes ++ ['\x7d']))

end ProseLint.Options
