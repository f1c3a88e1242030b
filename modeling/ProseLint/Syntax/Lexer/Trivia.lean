import ProseLint.Syntax.Cursor

/-!
# Blanks and comments

What stands between tokens: blanks, line breaks, line comments, block comments and the two forms of
comment that old pages hide scripts with (`<!--` anywhere, `-->` at the start of a line).
-/

namespace ProseLint.Syntax.Lexer

/-- Where the reader of trivia stands. -/
inductive TriviaState where
  | between
  | lineComment
  | blockComment
deriving Repr, DecidableEq

/-- What was skipped before a token. -/
structure Skipped where
  /-- The place of the token. -/
  cursor : Cursor
  /-- Does the token begin a line? -/
  newline : Bool
deriving Repr

/-- Skips blanks and comments; `none` if a block comment is never closed. -/
def skipTriviaFrom : TriviaState → Bool → List Char → Nat → Option Skipped
  | .blockComment, _, [], _ => none
  | _, newline, [], offset => some ⟨⟨[], offset⟩, newline⟩
  | .lineComment, newline, c :: cs, offset =>
    if isLineBreak c then skipTriviaFrom .between true cs (offset + c.utf8Size)
    else skipTriviaFrom .lineComment newline cs (offset + c.utf8Size)
  | .blockComment, newline, '*' :: '/' :: cs, offset =>
    skipTriviaFrom .between newline cs (offset + 2)
  | .blockComment, newline, c :: cs, offset =>
    skipTriviaFrom .blockComment (newline || isLineBreak c) cs (offset + c.utf8Size)
  | .between, newline, '/' :: '/' :: cs, offset =>
    skipTriviaFrom .lineComment newline cs (offset + 2)
  | .between, newline, '/' :: '*' :: cs, offset =>
    skipTriviaFrom .blockComment newline cs (offset + 2)
  | .between, newline, '<' :: '!' :: '-' :: '-' :: cs, offset =>
    skipTriviaFrom .lineComment newline cs (offset + 4)
  | .between, newline, c :: cs, offset =>
    if isLineBreak c then skipTriviaFrom .between true cs (offset + c.utf8Size)
    else if isBlank c then skipTriviaFrom .between newline cs (offset + c.utf8Size)
    else if newline && ['-', '-', '>'].isPrefixOf (c :: cs) then
      skipTriviaFrom .lineComment newline cs (offset + c.utf8Size)
    else some ⟨⟨c :: cs, offset⟩, newline⟩

/-- Skips the blanks and comments at a place; `none` if a block comment is never closed. -/
def skipTrivia (c : Cursor) (newline : Bool) : Option Skipped :=
  skipTriviaFrom .between newline c.rest c.offset

end ProseLint.Syntax.Lexer
