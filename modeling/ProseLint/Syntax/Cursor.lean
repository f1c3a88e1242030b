import ProseLint.Text.Span

/-!
# Cursors

A cursor is a place in a source text: the characters still ahead and the byte offset reached.
Moving a cursor over characters adds their length in bytes to its offset.
-/

namespace ProseLint.Syntax

open ProseLint.Text (byteLength)

/-- A place in a source text. -/
structure Cursor where
  /-- The characters ahead. -/
  rest : List Char
  /-- The number of bytes behind. -/
  offset : Nat
deriving Repr, Inhabited

namespace Cursor

/-- The beginning of a text. -/
def ofText (cs : List Char) : Cursor := ⟨cs, 0⟩

/-- The place behind the next `n` characters. -/
def skip (c : Cursor) (n : Nat) : Cursor :=
  ⟨c.rest.drop n, c.offset + byteLength (c.rest.take n)⟩

/-- The characters that satisfy `p` up to the first that does not, and the place behind them. -/
def takeWhile (p : Char → Bool) (c : Cursor) : List Char × Cursor :=
  let taken := c.rest.takeWhile p
  (taken, ⟨c.rest.dropWhile p, c.offset + byteLength taken⟩)

/-- The place behind the characters that satisfy `p`. -/
def dropWhile (p : Char → Bool) (c : Cursor) : Cursor := (c.takeWhile p).2

/-- The next character. -/
def head? (c : Cursor) : Option Char := c.rest.head?

/-- Does the next character satisfy `p`? -/
def nextIs (p : Char → Bool) (c : Cursor) : Bool :=
  match c.rest with
  | d :: _ => p d
  | [] => false

end Cursor

/-- Does a line of source end at this character? -/
def isLineBreak (c : Char) : Bool :=
  c == '\n' || c == '\r' || c == '\u2028' || c == '\u2029'

/-- Is this a character that separates tokens on a line? -/
def isBlank (c : Char) : Bool :=
  c == ' ' || c == '\t' || c == '\x0b' || c == '\x0c' || c == '\u00a0' || c == '\ufeff' ||
  c == '\u1680' || ('\u2000' ≤ c && c ≤ '\u200a') || c == '\u202f' || c == '\u205f' ||
  c == '\u3000'

end ProseLint.Syntax
