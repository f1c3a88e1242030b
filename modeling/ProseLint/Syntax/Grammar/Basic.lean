import ProseLint.Syntax.Parser
import ProseLint.Syntax.Pattern

/-!
# Grammar: what all rules share

The rules of the grammar call each other in circles. A `Goal` names what such a call asks for, and
every rule takes as argument the parser `rec` to which it hands the goals below it. The circle is
closed once, for all rules, where programs are parsed.
-/

namespace ProseLint.Syntax

/-- Where a statement stands. -/
inductive StatementPlace where
  /-- Among the statements of a module, where imports and exports may stand too. -/
  | module
  /-- Among the statements of a block. -/
  | block
  /-- As the body of another statement, where neither `let` nor `const` declares variables. -/
  | body
deriving Repr, DecidableEq

/-- What one rule of the grammar may ask of another. -/
inductive Goal where
  /-- Expressions with commas between them. -/
  | expression
  | assignment
  /-- Operands joined by operators that bind at least this tightly. -/
  | operation (least : Nat)
  | unary
  /-- Accesses and calls. -/
  | leftHandSide
  /-- The operand of `new`. -/
  | constructed
  | statement (place : StatementPlace)
  /-- A name or a pattern that binds names. -/
  | binding
  | type
  /-- A type without operators between types. -/
  | typeOperand
  | element
deriving Repr, DecidableEq

/-- A parser for any goal. -/
abbrev Grammar := Goal → Parser Node

namespace Grammar

open ProseLint.Syntax.Parser

/-- Surroundings inside brackets, where nothing of the outer expression is waited for. -/
def bracketed {α : Type} (p : Parser α) : Parser α :=
  inContext (fun c => { c with allowIn := true, awaitsColon := false, inTypeCondition := false }) p

/-- Surroundings inside a function. -/
def inFunction {α : Type} (async generator : Bool) (p : Parser α) : Parser α :=
  inContext (fun c =>
    { c with inAsync := async, inGenerator := generator, allowIn := true, awaitsColon := false,
             inTypeCondition := false }) p

/-- Surroundings inside a method or field, where `super` has properties. -/
def inMethod {α : Type} (p : Parser α) : Parser α :=
  inContext (fun c => { c with hasSuper := true }) p

/-- Surroundings inside a function that is no method. Where types may be written, `super` is left
for them to judge. -/
def outsideMethod {α : Type} (p : Parser α) : Parser α :=
  inContext (fun c => { c with hasSuper := c.dialect.hasTypes }) p

/-- A name that is no reserved word. -/
def name : Parser Node := do
  let t ← token
  match t.name? with
  | some n =>
    advance
    return .identifier t.span n
  | none => fail

/-- Any word, as behind a dot. -/
def word : Parser Node := do
  let t ← token
  match t.word? with
  | some n =>
    advance
    return .propertyName t.span n
  | none => fail

/-- A string literal. -/
def string : Parser Node := do
  let t ← token
  match t.kind with
  | .string value =>
    advance
    return .string t.span value
  | _ => fail

/-- The current token as a node without parts. -/
def leaf (kind : Construct) : Parser Node := do
  let t ← token
  advance
  return .construct kind t.span []

/-- The key of a property: a word, a string, a number, a private name, or an expression in
brackets. -/
def key (rec : Grammar) : Parser Node := do
  let t ← token
  match t.kind with
  | .word n _ =>
    advance
    return .propertyName t.span n
  | .string value =>
    advance
    return .propertyName t.span value
  | .number => leaf .number
  | .bigint => leaf .bigint
  | .privateName n =>
    advance
    return .privateName t.span n
  | _ =>
    expectSign "["
    let inner ← bracketed (rec .assignment)
    expectSign "]"
    return .computed (← spanFrom t.span.lo) inner

/-- A template from its opening backtick on, which is the current token and stands at `lo`. What may
stand between its chunks is a matter of `hole`, and wrong escapes are allowed if it is `tagged`. -/
def template (lo : Nat) (tagged : Bool) (hole : Parser Node) : Parser Node := do
  repeating ((← get).stop, ([] : List String), ([] : List Node)) fun (place, chunks, holes) => do
    match Lexer.chunk? place with
    | none => fail
    | some chunk =>
      unless tagged || Lexer.templateChunkValid chunk.raw do fail
      let chunks := String.ofList chunk.raw :: chunks
      moveTo chunk.stop
      match chunk.ending with
      | .close => return .done (.template (← spanFrom lo) chunks.reverse holes.reverse)
      | .hole =>
        let inner ← bracketed hole
        unless ← atSign closeBrace do fail
        return .more ((← get).stop, chunks, inner :: holes)

end Grammar

end ProseLint.Syntax
