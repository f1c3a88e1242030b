import ProseLint.Text.Span

/-!
# Tokens

The units that programs are read in. Two of them depend on where they stand and are read again by
the grammar: a slash may open a regular expression, and a backtick opens a template. The sign `>` is
always a token of its own, since it also closes type arguments.
-/

namespace ProseLint.Syntax

open ProseLint.Text (Span)

/-- What a token is. -/
inductive TokenKind where
  /-- A name or keyword; `escaped` tells whether any of it was written as an escape. -/
  | word (name : String) (escaped : Bool)
  /-- A name behind a `#`. -/
  | privateName (name : String)
  | punctuation (text : String)
  /-- A string literal with its decoded value. -/
  | string (value : String)
  | number
  | bigint
  /-- The backtick that opens a template. -/
  | backtick
  | endOfText
  /-- Nothing that may stand in a program. -/
  | invalid
deriving Repr, DecidableEq, Inhabited

/-- A token in its place. -/
structure Token where
  kind : TokenKind
  span : Span
  /-- Does a line break stand between this token and the one before? -/
  newline : Bool
deriving Repr, Inhabited

/-- The sign that opens a block. -/
abbrev openBrace : String := "\x7b"

/-- The sign that closes a block. -/
abbrev closeBrace : String := "\x7d"

/-- The words that are never names. -/
def reservedWords : List String := [
  "break", "case", "catch", "class", "const", "continue", "debugger", "default", "delete", "do",
  "else", "enum", "export", "extends", "false", "finally", "for", "function", "if", "import", "in",
  "instanceof", "new", "null", "return", "super", "switch", "this", "throw", "true", "try",
  "typeof", "var", "void", "while", "with"]

/-- Is the word never a name? -/
def isReserved (word : String) : Bool := reservedWords.contains word

namespace Token

/-- Is the token this sign? -/
def isSign (t : Token) (text : String) : Bool :=
  match t.kind with
  | .punctuation s => s == text
  | _ => false

/-- Is the token one of these signs? -/
def isSignOf (t : Token) (texts : List String) : Bool :=
  match t.kind with
  | .punctuation s => texts.contains s
  | _ => false

/-- Is the token this word, written without escapes? -/
def isWord (t : Token) (name : String) : Bool :=
  match t.kind with
  | .word n false => n == name
  | _ => false

/-- Is the token one of these words, written without escapes? -/
def isWordOf (t : Token) (names : List String) : Bool :=
  match t.kind with
  | .word n false => names.contains n
  | _ => false

/-- The word that the token is, reserved or not. -/
def word? (t : Token) : Option String :=
  match t.kind with
  | .word n _ => some n
  | _ => none

/-- The name that the token is, unless it is a reserved word. -/
def name? (t : Token) : Option String :=
  match t.kind with
  | .word n _ => if isReserved n then none else some n
  | _ => none

/-- Is the token a name? -/
def isName (t : Token) : Bool := t.name?.isSome

/-- Is the token the end of the text? -/
def isEnd (t : Token) : Bool := t.kind == .endOfText

end Token

end ProseLint.Syntax
