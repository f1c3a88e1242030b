import ProseLint.Syntax.Token
import ProseLint.Syntax.Lexer.Escape
import ProseLint.Syntax.Lexer.Name
import ProseLint.Syntax.Lexer.Number
import ProseLint.Syntax.Lexer.Quoted
import ProseLint.Syntax.Lexer.Trivia

/-!
# Reading tokens

`Lexer.read` gives the token at a place in a text, with the places before and behind it. It never
fails: what may not stand in a program reads as an invalid token.
-/

namespace ProseLint.Syntax.Lexer

open ProseLint.Text (Span)

/-- The signs of the language, longer ones before those that begin them. -/
def signs : List String := [
  "&&=", "**=", "...", "<<=", "===", "!==", "??=", "||=",
  "!=", "%=", "&&", "&=", "**", "*=", "++", "+=", "--", "-=", "/=", "<<", "<=", "==", "=>", "?.",
  "??", "^=", "|=", "||",
  "!", "%", "&", "(", ")", "*", "+", ",", "-", ".", "/", ":", ";", "<", "=", ">", "?", "[", "]",
  "^", openBrace, "|", closeBrace, "~"]

/-- The signs with their characters. -/
def signTable : List (String × List Char) := signs.map fun s => (s, s.toList)

/-- The sign at a place and the place behind it. A question mark before a decimal fraction is no
chain. -/
def sign? (c : Cursor) : Option (String × Cursor) :=
  match signTable.find? fun (_, sign) => sign.isPrefixOf c.rest with
  | some (text, sign) =>
    let stop := c.skip sign.length
    if text == "?." && stop.nextIs Char.isDigit then some ("?", c.skip 1) else some (text, stop)
  | none => none

/-- The token at a place where no blank stands, and the place behind it. -/
def tokenAt (c : Cursor) : TokenKind × Cursor :=
  match c.rest with
  | [] => (.endOfText, c)
  | d :: _ =>
    let behind := c.skip 1
    if d == '\x22' || d == '\x27' then
      let body := stringBody d behind
      match decodeString? body.inside with
      | some value =>
        (.string value, if body.stop.nextIs (· == d) then body.stop.skip 1 else body.stop)
      | none => (.invalid, behind)
    else if d == '\x60' then (.backtick, behind)
    else if d.isDigit || (d == '.' && behind.nextIs Char.isDigit) then
      match number? c with
      | some n => (if n.big then .bigint else .number, n.stop)
      | none => (.invalid, behind)
    else if d == '#' then
      match name? behind with
      | some n => (.privateName (String.ofList n.characters), n.stop)
      | none => (.invalid, behind)
    else match sign? c with
      | some (text, stop) => (.punctuation text, stop)
      | none =>
        match name? c with
        | some n => (.word (String.ofList n.characters) n.escaped, n.stop)
        | none => (.invalid, behind)

/-- A token with the places before and behind it. -/
structure Reading where
  token : Token
  start : Cursor
  stop : Cursor
deriving Inhabited

/-- Reads the token behind the blanks and comments at a place. -/
def read (c : Cursor) (newline : Bool) : Reading :=
  match skipTrivia c newline with
  | some ⟨start, newline⟩ =>
    let (kind, stop) := tokenAt start
    ⟨⟨kind, ⟨start.offset, stop.offset⟩, newline⟩, start, stop⟩
  | none => ⟨⟨.invalid, ⟨c.offset, c.offset⟩, newline⟩, c, c⟩

end ProseLint.Syntax.Lexer
