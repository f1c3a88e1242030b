import ProseLint.Text.NameChar
import ProseLint.Syntax.Cursor

/-!
# Names

A name is a run of name characters, any of which may be written as a `\u` escape.
-/

namespace ProseLint.Syntax.Lexer

open ProseLint.Text (NameChar.isStart NameChar.isPart)

/-- The value of a hexadecimal digit. -/
def hexValue? (c : Char) : Option Nat :=
  if '0' ≤ c && c ≤ '9' then some (c.toNat - '0'.toNat)
  else if 'a' ≤ c && c ≤ 'f' then some (c.toNat - 'a'.toNat + 10)
  else if 'A' ≤ c && c ≤ 'F' then some (c.toNat - 'A'.toNat + 10)
  else none

/-- Where the reader of a name stands. -/
inductive NameState where
  | characters
  /-- Behind a backslash. -/
  | escape
  /-- Behind `\u`. -/
  | unicode
  /-- Among the four digits of `\uXXXX`, with `left` more to come behind this one. -/
  | fixed (left value : Nat)
  /-- Among the digits of `\u{...}`. -/
  | braced (value : Nat) (some : Bool)
deriving Repr

/-- A name that was read. -/
structure Name where
  characters : List Char
  /-- Was any of it written as an escape? -/
  escaped : Bool
  /-- The place behind the name. -/
  stop : Cursor
deriving Repr

/-- Adds the character with this code to a name, if it may stand there. -/
def nameCharacter? (code : Nat) (before : List Char) : Option (List Char) :=
  if code.isValidChar then
    let c := Char.ofNat code
    if (if before.isEmpty then NameChar.isStart c else NameChar.isPart c) then some (c :: before)
    else none
  else none

/-- Reads a name; `before` holds what was read of it, last character first. -/
def nameFrom (escaped : Bool) : NameState → List Char → List Char → Nat → Option Name
  | .characters, before, [], offset => some ⟨before.reverse, escaped, ⟨[], offset⟩⟩
  | _, _, [], _ => none
  | .characters, before, c :: cs, offset =>
    if c == '\\' then nameFrom true .escape before cs (offset + 1)
    else match nameCharacter? c.toNat before with
      | some before => nameFrom escaped .characters before cs (offset + c.utf8Size)
      | none => some ⟨before.reverse, escaped, ⟨c :: cs, offset⟩⟩
  | .escape, before, c :: cs, offset =>
    if c == 'u' then nameFrom escaped .unicode before cs (offset + 1) else none
  | .unicode, before, c :: cs, offset =>
    if c == '{' then nameFrom escaped (.braced 0 false) before cs (offset + 1)
    else match hexValue? c with
      | some d => nameFrom escaped (.fixed 2 d) before cs (offset + 1)
      | none => none
  | .fixed left value, before, c :: cs, offset =>
    match hexValue? c, left with
    | none, _ => none
    | some d, left + 1 => nameFrom escaped (.fixed left (value * 16 + d)) before cs (offset + 1)
    | some d, 0 =>
      match nameCharacter? (value * 16 + d) before with
      | some before => nameFrom escaped .characters before cs (offset + 1)
      | none => none
  | .braced value any, before, c :: cs, offset =>
    if c == '}' then
      if any then
        match nameCharacter? value before with
        | some before => nameFrom escaped .characters before cs (offset + 1)
        | none => none
      else none
    else match hexValue? c with
      | some d =>
        if value ≤ 0x10FFFF then
          nameFrom escaped (.braced (value * 16 + d) true) before cs (offset + 1)
        else none
      | none => none

/-- Reads the name at a place; `none` if there is none or an escape is wrong. -/
def name? (c : Cursor) : Option Name :=
  match nameFrom false .characters [] c.rest c.offset with
  | some n => if n.characters.isEmpty then none else some n
  | none => none

end ProseLint.Syntax.Lexer
