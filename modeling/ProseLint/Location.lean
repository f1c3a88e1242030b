import ProseLint.Text.Width

/-!
# Lines and columns

A place in a source text is shown by its line, its column and the text of the line. Lines end at a
line feed, at a carriage return with a line feed, and at a carriage return alone; the text that is
shown for a line runs to the next line feed. Columns count from one and measure what stands before
the place on its line: a tab takes four columns, a control character none, and a character beyond
the basic plane, which is two units of UTF-16, one more than its width.
-/

namespace ProseLint

open ProseLint.Text

/-- A place in a source text as it is shown. -/
structure Location where
  line : Nat
  col : Nat
  /-- The source from the start of the line to the next line feed. -/
  sourceLine : List Char
deriving Repr, DecidableEq, Inhabited

namespace Location

/-- The columns that a character takes in a source line. -/
def columnsOf (c : Char) : Nat :=
  if c == '\t' then 4
  else if c.toNat ≤ 0xffff then Width.charColumns c
  else Width.charColumns c + 1

/-- The text of a line from its start on. -/
def lineText (start : List Char) : List Char := start.takeWhile (· != '\n')

/-- Does a line end with this character before the others? -/
def endsLine (c : Char) (rest : List Char) : Bool :=
  c == '\n' || (c == '\r' && rest.head? != some '\n')

/-- The location `ahead` bytes from here, which is behind `columns` columns of a line that starts
with the characters `start`. -/
def locateFrom (line columns : Nat) (start : List Char) : List Char → Nat → Location
  | [], _ => ⟨line, columns + 1, lineText start⟩
  | _ :: _, 0 => ⟨line, columns + 1, lineText start⟩
  | c :: cs, ahead@(_ + 1) =>
    if endsLine c cs then locateFrom (line + 1) 0 cs cs (ahead - c.utf8Size)
    else locateFrom line (columns + columnsOf c) start cs (ahead - c.utf8Size)

/-- The location of a byte offset in a text. -/
def ofOffset (text : List Char) (offset : Nat) : Location := locateFrom 1 0 text text offset

end Location

end ProseLint
