import ProseLint.Syntax.Cursor

/-!
# Where quoted text ends

Strings, templates and regular expressions run to a closing sign. Each reader here starts behind the
opening sign.
-/

namespace ProseLint.Syntax.Lexer

/-- The characters inside quotes and the place of the closing one. -/
structure Quoted where
  inside : List Char
  stop : Cursor
deriving Repr

/-- Where the reader of a string stands. -/
inductive StringState where
  | text
  | escape
  | carriage
deriving Repr, DecidableEq

/-- Reads a string up to its closing quote. A string that is never closed ends before the line break
or at the end of the text. -/
def stringBodyFrom (quote : Char) : StringState → List Char → List Char → Nat → Quoted
  | _, inside, [], offset => ⟨inside.reverse, ⟨[], offset⟩⟩
  | .escape, inside, c :: cs, offset =>
    stringBodyFrom quote (if c == '\r' then .carriage else .text) (c :: inside) cs
      (offset + c.utf8Size)
  | state, inside, c :: cs, offset =>
    if state == .carriage && c == '\n' then
      stringBodyFrom quote .text (c :: inside) cs (offset + 1)
    else if c == quote || c == '\n' || c == '\r' then ⟨inside.reverse, ⟨c :: cs, offset⟩⟩
    else
      stringBodyFrom quote (if c == '\\' then .escape else .text) (c :: inside) cs
        (offset + c.utf8Size)

/-- The inside of a string whose opening quote was just passed. -/
def stringBody (quote : Char) (c : Cursor) : Quoted := stringBodyFrom quote .text [] c.rest c.offset

/-- What ends a chunk of a template. -/
inductive ChunkEnd where
  /-- The backtick that closes the template. -/
  | close
  /-- The sign that opens an interpolation. -/
  | hole
deriving Repr, DecidableEq

/-- A chunk of a template. -/
structure Chunk where
  /-- The source of the chunk, unchanged. -/
  raw : List Char
  ending : ChunkEnd
  /-- The place behind the sign that ended the chunk. -/
  stop : Cursor
deriving Repr

/-- Reads a chunk of a template; `none` if the text ends first. -/
def chunkFrom? : Bool → List Char → List Char → Nat → Option Chunk
  | _, _, [], _ => none
  | true, raw, c :: cs, offset => chunkFrom? false (c :: raw) cs (offset + c.utf8Size)
  | false, raw, '$' :: '{' :: cs, offset => some ⟨raw.reverse, .hole, ⟨cs, offset + 2⟩⟩
  | false, raw, c :: cs, offset =>
    if c == '\x60' then some ⟨raw.reverse, .close, ⟨cs, offset + 1⟩⟩
    else chunkFrom? (c == '\\') (c :: raw) cs (offset + c.utf8Size)

/-- The chunk of a template at a place. -/
def chunk? (c : Cursor) : Option Chunk := chunkFrom? false [] c.rest c.offset

/-- Where the reader of a regular expression stands. -/
inductive RegexState where
  | pattern
  | charClass
  | escape (inClass : Bool)
deriving Repr, DecidableEq

/-- The place behind the closing slash of a regular expression; `none` if its line ends first. -/
def regexStopFrom? : RegexState → List Char → Nat → Option Cursor
  | _, [], _ => none
  | state, c :: cs, offset =>
    if isLineBreak c then none
    else match state with
      | .escape inClass =>
        regexStopFrom? (if inClass then .charClass else .pattern) cs (offset + c.utf8Size)
      | .charClass =>
        if c == '\\' then regexStopFrom? (.escape true) cs (offset + 1)
        else regexStopFrom? (if c == ']' then .pattern else .charClass) cs (offset + c.utf8Size)
      | .pattern =>
        if c == '/' then some ⟨cs, offset + 1⟩
        else if c == '\\' then regexStopFrom? (.escape false) cs (offset + 1)
        else regexStopFrom? (if c == '[' then .charClass else .pattern) cs (offset + c.utf8Size)

/-- The place behind the closing slash of a regular expression whose opening one was passed. -/
def regexStop? (c : Cursor) : Option Cursor := regexStopFrom? .pattern c.rest c.offset

end ProseLint.Syntax.Lexer
