import ProseLint.Text.NameChar
import ProseLint.Syntax.Lexer.Name

/-!
# Numbers

Only the extent of a number matters: decimal numbers with fraction and exponent, the hexadecimal,
octal and binary forms, the old octal form with a leading zero, and integers of any size, marked by
an `n`. Underscores may stand anywhere among the digits.
-/

namespace ProseLint.Syntax.Lexer

/-- Is this a digit in a notation with `base` digits, or an underscore? -/
def isDigitOf (base : Nat) (c : Char) : Bool :=
  c == '_' || match hexValue? c with
    | some d => d < base
    | none => false

/-- A number that was read. -/
structure Number where
  big : Bool
  /-- The place behind the number. -/
  stop : Cursor
deriving Repr

/-- The mark of an integer of any size, if it follows. -/
def bigMark (c : Cursor) : Number :=
  if c.nextIs (· == 'n') then ⟨true, c.skip 1⟩ else ⟨false, c⟩

/-- The digits of a marked notation; at least one is needed. -/
def radixDigits? (base : Nat) (c : Cursor) : Option Number :=
  if c.nextIs (isDigitOf base) then some (bigMark (c.dropWhile (isDigitOf base))) else none

/-- The place behind an exponent, if one follows; it needs a digit. -/
def exponent? (c : Cursor) : Option Cursor :=
  if c.nextIs fun d => d == 'e' || d == 'E' then
    let digits := if (c.skip 1).nextIs fun d => d == '+' || d == '-' then c.skip 2 else c.skip 1
    if digits.nextIs Char.isDigit then some (digits.dropWhile (isDigitOf 10)) else none
  else some c

/-- The place behind a fraction, if one follows. -/
def fraction (c : Cursor) : Cursor :=
  if c.nextIs (· == '.') then (c.skip 1).dropWhile (isDigitOf 10) else c

/-- The base that a leading zero and a letter announce. -/
def announcedBase? : List Char → Option Nat
  | '0' :: c :: _ =>
    if c == 'x' || c == 'X' then some 16
    else if c == 'o' || c == 'O' then some 8
    else if c == 'b' || c == 'B' then some 2
    else none
  | _ => none

/-- The number at a place where a digit stands, or a dot and a digit. -/
def numberBody? (c : Cursor) : Option Number :=
  match announcedBase? c.rest with
  | some base => radixDigits? base (c.skip 2)
  | none =>
    let (whole, rest) := c.takeWhile (isDigitOf 10)
    let oldOctal := 2 ≤ whole.length && whole.head? == some '0' && whole.all (isDigitOf 8)
    if oldOctal then some ⟨false, rest⟩
    else if !whole.isEmpty && rest.nextIs (· == 'n') then some (bigMark rest)
    else (exponent? (fraction rest)).map (⟨false, ·⟩)

/-- Reads a number; no name and no digit may follow it directly. -/
def number? (c : Cursor) : Option Number :=
  match numberBody? c with
  | some n =>
    if n.stop.nextIs fun d => Text.NameChar.isStart d || d.isDigit || d == '\\' then none
    else some n
  | none => none

end ProseLint.Syntax.Lexer
