import ProseLint.Options.Numeral
import ProseLint.Text.Quoted

/-!
# Faults in options texts

Why a text gives no options, and where. A fault stands at a byte of the text; messages give its line
and the number of bytes from the start of that line.
-/

namespace ProseLint.Options

/-- What should have stood in place of a value of another type. -/
inductive Expected where
  | options
  | excludes
  | entry
deriving Repr, DecidableEq, Inhabited

namespace Expected

/-- The words for what was expected. -/
def describe : Expected → String
  | options => "struct RuleOptions"
  | excludes => "a sequence"
  | entry => "a string"

end Expected

/-- A value that stands where one of another type should. -/
inductive Found where
  | null
  | boolean (value : Bool)
  | number (numeral : Numeral)
  | string (text : String)
  | sequence
  | map
deriving Repr, DecidableEq, Inhabited

namespace Found

/-- The words for a value; `none` for a number that is too large. -/
def describe? : Found → Option String
  | null => some "null"
  | boolean value => some ("boolean `" ++ (if value then "true" else "false") ++ "`")
  | number numeral => numeral.describe?
  | string text => some ("string " ++ Text.Quoted.quote text)
  | sequence => some "sequence"
  | map => some "map"

end Found

/-- Why a text gives no options. -/
inductive Cause where
  | endInValue
  | endInObject
  | endInList
  | endInString
  | noValue
  | misspelledWord
  | noColon
  | noListSeparator
  | noObjectSeparator
  | keyNotString
  | trailingComma
  | trailingCharacters
  | malformedNumber
  | numberOutOfRange
  | malformedEscape
  | controlCharacter
  | loneSurrogate
  | brokenSurrogatePair
  | repeatedExcludes
  | wrongType (found : Found) (expected : Expected)
deriving Repr, DecidableEq, Inhabited

namespace Cause

/-- The words for a cause. -/
def describe : Cause → String
  | endInValue => "EOF while parsing a value"
  | endInObject => "EOF while parsing an object"
  | endInList => "EOF while parsing a list"
  | endInString => "EOF while parsing a string"
  | noValue => "expected value"
  | misspelledWord => "expected ident"
  | noColon => "expected `:`"
  | noListSeparator => "expected `,` or `]`"
  | noObjectSeparator => "expected `,` or `\x7d`"
  | keyNotString => "key must be a string"
  | trailingComma => "trailing comma"
  | trailingCharacters => "trailing characters"
  | malformedNumber => "invalid number"
  | numberOutOfRange => "number out of range"
  | malformedEscape => "invalid escape"
  | controlCharacter => "control character (\\u0000-\\u001F) found while parsing a string"
  | loneSurrogate => "lone leading surrogate in hex escape"
  | brokenSurrogatePair => "unexpected end of hex escape"
  | repeatedExcludes => "duplicate field `excludes`"
  | wrongType found expected =>
    match found.describe? with
    | some words => "invalid type: " ++ words ++ ", expected " ++ expected.describe
    | none => "number out of range"

end Cause

/-- A cause and the number of bytes before the place where it shows. -/
structure Fault where
  cause : Cause
  offset : Nat
deriving Repr, DecidableEq, Inhabited

namespace Fault

/-- The line and column of the place `ahead` bytes from here; a line feed starts a new line. -/
def positionFrom (line col : Nat) : List Char → Nat → Nat × Nat
  | [], _ => (line, col)
  | _ :: _, 0 => (line, col)
  | c :: cs, ahead@(_ + 1) =>
    if c == '\n' then positionFrom (line + 1) 0 cs (ahead - 1)
    else positionFrom line (col + min c.utf8Size ahead) cs (ahead - c.utf8Size)

/-- The words for a fault in a text. -/
def message (text : List Char) (f : Fault) : String :=
  let (line, col) := positionFrom 1 0 text f.offset
  "Failed to parse rule options: " ++ f.cause.describe ++ " at line " ++ toString line ++
    " column " ++ toString col

end Fault

end ProseLint.Options
