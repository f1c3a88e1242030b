import ProseLint.Syntax.Grammar.Basic

/-!
# Grammar: operators between operands

Operators that join operands have ranks, and a chain of operands is grouped by them. The rules start
behind the first operand, so that whatever stands there may open a chain.
-/

namespace ProseLint.Syntax.Grammar

open ProseLint.Syntax.Parser
open ProseLint.Text (Span)

/-- An operator between two operands. -/
structure Operator where
  text : String
  /-- How tightly it binds. -/
  rank : Nat
  /-- The place behind it. -/
  stop : Cursor

/-- How tightly the operator binds; `none` if it is none. -/
def operatorRank? (text : String) : Option Nat :=
  if text == "??" then some 1
  else if text == "||" then some 2
  else if text == "&&" then some 3
  else if text == "|" then some 4
  else if text == "^" then some 5
  else if text == "&" then some 6
  else if ["==", "!=", "===", "!=="].contains text then some 7
  else if ["<", ">", "<=", ">=", "instanceof", "in"].contains text then some 8
  else if ["<<", ">>", ">>>"].contains text then some 9
  else if ["+", "-"].contains text then some 10
  else if ["*", "/", "%"].contains text then some 11
  else if text == "**" then some 12
  else none

/-- The rank of casts behind an operand. -/
def castRank : Nat := 8

/-- The signs that begin with `>`, which are read only where an operator may stand. -/
def angleSigns : List String := [">>>=", ">>=", ">>>", ">>", ">=", ">"]

/-- The sign or word at the current token, taken as an operator, and the place behind it. -/
def operatorText? : Parser (Option (String × Cursor)) := do
  let s ← get
  match s.token.kind with
  | .punctuation ">" =>
    match angleSigns.find? fun p => p.toList.isPrefixOf s.start.rest with
    | some p => return some (p, s.start.skip p.length)
    | none => return none
  | .punctuation p => return some (p, s.stop)
  | .word w false =>
    if w == "instanceof" || (w == "in" && (← read).allowIn) then return some (w, s.stop)
    else return none
  | _ => return none

/-- The operator at the current token. -/
def operator? : Parser (Option Operator) := do
  match ← operatorText? with
  | some (text, stop) => return (operatorRank? text).map fun rank => ⟨text, rank, stop⟩
  | none => return none

/-- Is the current token a sign that joins operands? -/
def atOperatorSign : Parser Bool := do
  match (← token).kind with
  | .punctuation _ => return (← operator?).isSome
  | _ => return false

/-- The node of an operation. -/
def operationNode (span : Span) (text : String) (left right : Node) : Node :=
  if text == "||" then .logical span .or left right
  else if text == "&&" then .logical span .and left right
  else if text == "??" then .logical span .coalesce left right
  else .construct .binary span [left, right]

/-- May the node not stand left of `**`? -/
def isUnary : Node → Bool
  | .construct k _ _ => k == .unary || k == .await
  | _ => false

/-- Operands joined by operators that bind at least as tightly as `least`, from behind the first
operand on, which began at `lo`. -/
def operationRest (rec : Grammar) (least lo : Nat) (first : Node) : Parser Node :=
  repeating first fun left => do
    let t ← token
    if least ≤ castRank && t.isWordOf ["as", "satisfies"] && !t.newline && (← typed) then
      advance
      let types ← if t.isWord "as" && (← eatWord "const") then pure []
        else pure [← inContext (fun c => { c with inTypeCondition := false }) (rec .type)]
      return .more (← finish .cast lo (left :: types))
    match ← operator? with
    | some op =>
      if op.rank < least then return .done left
      if op.text == "**" && isUnary left then fail
      moveTo op.stop
      let right ← rec (.operation (if op.text == "**" then op.rank else op.rank + 1))
      return .more (operationNode (← spanFrom lo) op.text left right)
    | none => return .done left

end ProseLint.Syntax.Grammar
