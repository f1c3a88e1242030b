import ProseLint.Text.Utf16
import ProseLint.Syntax.Cursor
import ProseLint.Syntax.Lexer.Name

/-!
# Escapes in strings and templates

The text between the quotes of a string stands for a sequence of UTF-16 code units. `decode?` reads
it with all its escapes: line continuations stand for nothing, `\x` and `\u` for a code, and up to
three octal digits for a code below 256. Templates have the same escapes without the octal ones.
-/

namespace ProseLint.Syntax.Lexer

open ProseLint.Text

/-- Where the reader of escapes stands. -/
inductive EscapeState where
  | text
  /-- Behind a backslash. -/
  | escape
  /-- Behind a backslash and a carriage return. -/
  | carriage
  /-- Behind `\u`. -/
  | unicode
  /-- Among hexadecimal digits of a fixed number, with `left` more to come behind this one. -/
  | fixed (left value : Nat)
  /-- Among the digits of `\u{...}`. -/
  | braced (value : Nat) (some : Bool)
  /-- Among octal digits. -/
  | octal (count value : Nat)
  /-- Behind `\0` where octal escapes are forbidden. -/
  | zero
deriving Repr

/-- The code that a single escaped character stands for. -/
def singleEscape (c : Char) : Nat :=
  match c with
  | 'n' => 0x0A
  | 't' => 0x09
  | 'r' => 0x0D
  | 'b' => 0x08
  | 'v' => 0x0B
  | 'f' => 0x0C
  | c => c.toNat

/-- The value of an octal digit. -/
def octalValue? (c : Char) : Option Nat :=
  if '0' ≤ c && c ≤ '7' then some (c.toNat - '0'.toNat) else none

/-- The code units that a text with escapes stands for; `none` if an escape is wrong. -/
def decodeFrom (octals : Bool) : EscapeState → List Char → Option (List UInt16)
  | .text, [] | .carriage, [] => some []
  | .octal _ value, [] => some (Utf16.unitsOf value)
  | .zero, [] => some (Utf16.unitsOf 0)
  | _, [] => none
  | .text, c :: cs =>
    if c == '\\' then decodeFrom octals .escape cs
    else (decodeFrom octals .text cs).map (Utf16.unitsOf c.toNat ++ ·)
  | .carriage, c :: cs =>
    if c == '\n' then decodeFrom octals .text cs
    else if c == '\\' then decodeFrom octals .escape cs
    else (decodeFrom octals .text cs).map (Utf16.unitsOf c.toNat ++ ·)
  | .escape, c :: cs =>
    if c == 'x' then decodeFrom octals (.fixed 1 0) cs
    else if c == 'u' then decodeFrom octals .unicode cs
    else if c == '\r' then decodeFrom octals .carriage cs
    else if isLineBreak c then decodeFrom octals .text cs
    else match octalValue? c with
      | some d =>
        if octals then decodeFrom octals (.octal 1 d) cs
        else if d == 0 then decodeFrom octals .zero cs
        else none
      | none =>
        if !octals && c.isDigit then none
        else (decodeFrom octals .text cs).map (Utf16.unitsOf (singleEscape c) ++ ·)
  | .unicode, c :: cs =>
    if c == '{' then decodeFrom octals (.braced 0 false) cs
    else match hexValue? c with
      | some d => decodeFrom octals (.fixed 2 d) cs
      | none => none
  | .fixed left value, c :: cs =>
    match hexValue? c, left with
    | none, _ => none
    | some d, left + 1 => decodeFrom octals (.fixed left (value * 16 + d)) cs
    | some d, 0 => (decodeFrom octals .text cs).map (Utf16.unitsOf (value * 16 + d) ++ ·)
  | .braced value any, c :: cs =>
    if c == '}' then
      if any then (decodeFrom octals .text cs).map (Utf16.unitsOf value ++ ·) else none
    else match hexValue? c with
      | some d =>
        if value * 16 + d ≤ 0x10FFFF then decodeFrom octals (.braced (value * 16 + d) true) cs
        else none
      | none => none
  | .octal count value, c :: cs =>
    match octalValue? c with
    | some d =>
      if count < 3 && value * 8 + d < 256 then
        decodeFrom octals (.octal (count + 1) (value * 8 + d)) cs
      else (decodeFrom octals .text cs).map (Utf16.unitsOf value ++ Utf16.unitsOf c.toNat ++ ·)
    | none =>
      if c == '\\' then (decodeFrom octals .escape cs).map (Utf16.unitsOf value ++ ·)
      else (decodeFrom octals .text cs).map (Utf16.unitsOf value ++ Utf16.unitsOf c.toNat ++ ·)
  | .zero, c :: cs =>
    if c.isDigit then none
    else if c == '\\' then (decodeFrom octals .escape cs).map (Utf16.unitsOf 0 ++ ·)
    else (decodeFrom octals .text cs).map (Utf16.unitsOf 0 ++ Utf16.unitsOf c.toNat ++ ·)

/-- The text that the inside of a string literal stands for. -/
def decodeString? (cs : List Char) : Option String :=
  (decodeFrom true .text cs).map fun units => String.ofList (Utf16.decodeLossy units)

/-- Are all escapes in this chunk of a template right? -/
def templateChunkValid (cs : List Char) : Bool := (decodeFrom false .text cs).isSome

end ProseLint.Syntax.Lexer
