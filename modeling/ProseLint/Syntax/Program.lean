import ProseLint.Syntax.Grammar.Statement

/-!
# Programs

The rules of the grammar are tied together by a bound on how deep they call each other. The bound is
taken from the length of the text, far above what any program of that length needs.
-/

namespace ProseLint.Syntax

open ProseLint.Syntax.Parser

namespace Grammar

/-- The rule for a goal, in terms of the rules for the goals below it. -/
def rule (rec : Grammar) : Grammar
  | .expression => expression rec
  | .assignment => assignment rec
  | .operation least => operation rec least
  | .unary => unary rec
  | .leftHandSide => leftHandSide rec
  | .constructed => constructed rec
  | .statement place => statement rec place
  | .binding => binding rec
  | .type => type rec
  | .typeOperand => typeOperand rec
  | .element => element rec

/-- The grammar with at most `depth` rules inside each other. -/
def toDepth : Nat → Grammar
  | 0 => fun _ => fail
  | depth + 1 => rule (toDepth depth)

/-- Statements up to the end of the text. -/
def statements (grammar : Grammar) : Parser (List Node) :=
  repeating ([] : List Node) fun items => do
    if (← token).isEnd then return .done items.reverse
    return .more ((← grammar (.statement .module)) :: items)

end Grammar

namespace Program

/-- The text without one leading byte order mark. -/
def withoutMark : List Char → List Char
  | '\ufeff' :: cs => cs
  | cs => cs

/-- The place of the first token: a line for the system's loader is skipped. -/
def firstPlace (cs : List Char) : Cursor :=
  let start := Cursor.ofText cs
  if ['#', '!'].isPrefixOf cs then start.dropWhile (!isLineBreak ·) else start

/-- The tree of a source text in a dialect; spans count from behind a leading byte order mark. -/
def parse (dialect : Dialect) (source : List Char) : Except SyntaxError Node :=
  let text := withoutMark source
  let bound := text.length + 4
  let context : Context := { dialect, hasSuper := dialect.hasTypes, budget := bound }
  let grammar := Grammar.toDepth (8 * bound)
  match Grammar.statements grammar context (stateAt (firstPlace text) true) with
  | .ok (items, state) => .ok (.construct .program ⟨0, state.stop.offset⟩ items)
  | .error e => .error e

end Program

end ProseLint.Syntax
