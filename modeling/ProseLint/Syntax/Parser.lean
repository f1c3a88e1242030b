import ProseLint.Syntax.Dialect
import ProseLint.Syntax.Lexer
import ProseLint.Syntax.Node

/-!
# Parsers

A parser reads tokens one at a time from a source text. It knows the current token and the places
before and behind it, so that a grammar rule may read the text at either place in another way. A
parser that fails leaves no trace: alternatives are tried from where the first one began.
-/

namespace ProseLint.Syntax

open ProseLint.Text (Span)

/-- A text that is no program, with the place where reading stopped. -/
structure SyntaxError where
  offset : Nat
deriving Repr, DecidableEq, Inhabited

/-- What a grammar rule needs to know of its surroundings. -/
structure Context where
  dialect : Dialect
  /-- Is `yield` an operator here? -/
  inGenerator : Bool := false
  /-- Is `await` surely an operator here? -/
  inAsync : Bool := false
  /-- May `in` be an operator here? -/
  allowIn : Bool := true
  /-- Does an enclosing conditional expression wait for its colon? -/
  awaitsColon : Bool := false
  /-- May properties be read from `super` here? -/
  hasSuper : Bool := false
  /-- Are declarations here only described, so that they give no values? -/
  described : Bool := false
  /-- Is `extends` kept for the condition of an enclosing type? -/
  inTypeCondition : Bool := false
  /-- A bound on how often any list of items may be continued. -/
  budget : Nat
deriving Repr, Inhabited

/-- Where a parser stands. -/
structure ParserState where
  token : Token
  /-- The place of the token's first character. -/
  start : Cursor
  /-- The place behind the token. -/
  stop : Cursor
  /-- The offset where the token before this one ended. -/
  lastEnd : Nat
  /-- The offset at which an arrow function may begin. -/
  arrowStart : Option Nat := none
deriving Inhabited

/-- A reader of tokens that gives a value or fails. -/
abbrev Parser := ReaderT Context (StateT ParserState (Except SyntaxError))

namespace Parser

/-- The state of a parser that stands before the token at a place. -/
def stateAt (c : Cursor) (newline : Bool) : ParserState :=
  let r := Lexer.read c newline
  { token := r.token, start := r.start, stop := r.stop, lastEnd := c.offset }

/-- The current token. -/
def token : Parser Token := return (← get).token

/-- Fails at the current token. -/
def fail {α : Type} : Parser α := do throw ⟨(← get).token.span.lo⟩

/-- Goes on with the token behind a place, which ends what was read so far. -/
def moveTo (c : Cursor) : Parser Unit :=
  modify fun s => { stateAt c false with arrowStart := s.arrowStart }

/-- Passes the current token. -/
def advance : Parser Unit := do moveTo (← get).stop

/-- The token behind the current one. -/
def peek : Parser Token := return (Lexer.read (← get).stop false).token

/-- The offset of the current token. -/
def position : Parser Nat := return (← get).token.span.lo

/-- The span from an offset to the end of the last token passed. -/
def spanFrom (lo : Nat) : Parser Span := return ⟨lo, (← get).lastEnd⟩

/-- A node of the kind from an offset to the last token passed. -/
def finish (kind : Construct) (lo : Nat) (members : List Node) : Parser Node :=
  return .construct kind (← spanFrom lo) members

/-- Is the current token this sign? -/
def atSign (text : String) : Parser Bool := return (← token).isSign text

/-- Is the current token one of these signs? -/
def atSignOf (texts : List String) : Parser Bool := return (← token).isSignOf texts

/-- Is the current token this word? -/
def atWord (name : String) : Parser Bool := return (← token).isWord name

/-- Passes the sign if it is the current token. -/
def eatSign (text : String) : Parser Bool := do
  if ← atSign text then
    advance
    return true
  return false

/-- Passes the sign, which must be the current token. -/
def expectSign (text : String) : Parser Unit := do
  unless ← eatSign text do fail

/-- Passes the word if it is the current token. -/
def eatWord (name : String) : Parser Bool := do
  if ← atWord name then
    advance
    return true
  return false

/-- Passes the word, which must be the current token. -/
def expectWord (name : String) : Parser Unit := do
  unless ← eatWord name do fail

/-- Does a statement end before the current token without a semicolon? -/
def atImpliedEnd : Parser Bool := do
  let t ← token
  return t.newline || t.isSign closeBrace || t.isEnd

/-- Passes the end of a statement, which a line break, a closing brace or the end of the text may
stand for. -/
def endStatement : Parser Unit := do
  unless ← eatSign ";" do
    unless ← atImpliedEnd do fail

/-- Runs a parser in changed surroundings. -/
def inContext {α : Type} (change : Context → Context) (p : Parser α) : Parser α :=
  withReader change p

/-- Runs a parser; if it fails, nothing has happened. -/
def optionally {α : Type} (p : Parser α) : Parser (Option α) := fun ctx s =>
  match p ctx s with
  | .ok (a, s) => .ok (some a, s)
  | .error _ => .ok (none, s)

/-- Runs the first parser, or the second one from the same place if the first fails. -/
def orElse {α : Type} (p q : Parser α) : Parser α := fun ctx s =>
  match p ctx s with
  | .ok r => .ok r
  | .error _ => q ctx s

/-- Runs a parser, or gives a value in its place if it fails before it has passed a token. -/
def orMissing {α : Type} (p : Parser α) (missing : α) : Parser α := fun ctx s =>
  match p ctx s with
  | .ok r => .ok r
  | .error e => if e.offset == s.token.span.lo then .ok (missing, s) else .error e

/-- Runs a parser for its answer only; the place stays. -/
def lookahead {α : Type} (p : Parser α) : Parser α := fun ctx s =>
  match p ctx s with
  | .ok (a, _) => .ok (a, s)
  | .error e => .error e

/-- Does the parser succeed from here? The place stays. -/
def succeeds {α : Type} (p : Parser α) : Parser Bool := do
  return (← optionally (lookahead p)).isSome

/-- May types be written here? -/
def typed : Parser Bool := return (← read).dialect.hasTypes

/-- What a step of a list decides. -/
inductive Step (σ α : Type) where
  | more (state : σ)
  | done (result : α)

/-- Repeats a step until it is done, at most `fuel` times. -/
def iterate {σ α : Type} (step : σ → Parser (Step σ α)) : Nat → σ → Parser α
  | 0, _ => fail
  | fuel + 1, state => do
    match ← step state with
    | .more state => iterate step fuel state
    | .done result => return result

/-- Repeats a step until it is done. Every step but the last passes a token, so the bound on lists
is never met. -/
def repeating {σ α : Type} (state : σ) (step : σ → Parser (Step σ α)) : Parser α := do
  iterate step (← read).budget state

/-- Items up to a closing sign, which is passed. -/
def itemsUntil (close : String) (item : Parser Node) : Parser (List Node) :=
  repeating ([] : List Node) fun items => do
    if ← eatSign close then return .done items.reverse
    return .more ((← item) :: items)

/-- Items with commas between them, up to a closing sign, which is passed; a last comma may stand
before it. -/
def commaItems (close : String) (item : Parser Node) : Parser (List Node) :=
  repeating ([] : List Node) fun items => do
    if ← eatSign close then return .done items.reverse
    let items := (← item) :: items
    if ← eatSign "," then return .more items
    expectSign close
    return .done items.reverse

end Parser

end ProseLint.Syntax
