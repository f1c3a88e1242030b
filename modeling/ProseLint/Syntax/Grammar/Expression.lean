import ProseLint.Syntax.Grammar.Function
import ProseLint.Syntax.Grammar.Markup
import ProseLint.Syntax.Grammar.Operation

/-!
# Grammar: expressions

From single names and literals through accesses and calls, operators and conditions up to
assignments and arrow functions. Parentheses are read once, as a list that becomes either a
parenthesized expression, the arguments of a call of `async`, or the parameters of an arrow
function.
-/

namespace ProseLint.Syntax.Grammar

open ProseLint.Syntax.Parser
open ProseLint.Text (Span NameChar.isPart)

/-! ## Literals -/

/-- A regular expression, whose opening slash is part of the current token. -/
def regex : Parser Node := do
  let start := (← get).start
  match Lexer.regexStop? (start.skip 1) with
  | none => fail
  | some stop =>
    let stop := stop.dropWhile NameChar.isPart
    moveTo stop
    return .construct .regex ⟨start.offset, stop.offset⟩ []

/-- An expression that dots may open up. -/
def spreadable (rec : Grammar) : Parser Node := do
  let lo ← position
  if ← eatSign "..." then
    let inner ← rec .assignment
    return .spread (← spanFrom lo) inner
  else rec .assignment

/-- An array literal, from its bracket on. -/
def array (rec : Grammar) : Parser Node := do
  let lo ← position
  expectSign "["
  let items ← bracketed <| commaItems "]" do
    if ← atSign "," then
      let at' ← position
      return .construct .hole ⟨at', at'⟩ []
    spreadable rec
  finish .array lo items

/-- A property of an object literal behind its key, which is `k` and began with the token `first`.
A word alone stands for the variable of that name. -/
def propertyRest (rec : Grammar) (lo : Nat) (first : Token) (k : Node) : Parser Node := do
  if (← atSign "(") || ((← typed) && (← atSign "<")) then
    finish .method lo (k :: (← methodParts rec false false))
  else if ← eatSign ":" then
    finish .property lo [k, ← rec .assignment]
  else match first.word? with
    | none => if (← typed) && (← atSign closeBrace) then finish .property lo [k] else fail
    | some n =>
      let id := Node.identifier first.span n
      if ← eatSign "=" then finish .coverDefault lo [id, ← rec .assignment]
      else if ← atSignOf [",", closeBrace] then finish .shorthand lo [id]
      else fail

/-- A property of an object literal without modifiers. -/
def plainProperty (rec : Grammar) (lo : Nat) : Parser Node := do
  let first ← token
  if let .privateName _ := first.kind then fail
  propertyRest rec lo first (← key rec)

/-- A member of an object literal. -/
def property (rec : Grammar) : Parser Node := do
  let lo ← position
  if ← eatSign "..." then
    let inner ← rec .assignment
    return .spread (← spanFrom lo) inner
  else if ← eatSign "*" then method rec lo .method false true
  else if (← atKeyModifier ["get"]) && !(← peek).isSign "*" then
    advance
    method rec lo .getter false false
  else if (← atKeyModifier ["set"]) && !(← peek).isSign "*" then
    advance
    method rec lo .setter false false
  else if (← atKeyModifier ["async"]) && !(← peek).newline then
    advance
    let generator ← eatSign "*"
    method rec lo .method true generator
  else plainProperty rec lo

/-- An object literal, from its brace on. -/
def object (rec : Grammar) : Parser Node := do
  let lo ← position
  expectSign openBrace
  finish .object lo (← bracketed (commaItems closeBrace (property rec)))

/-! ## Parentheses and arrow functions -/

/-- The body of an arrow function: statements in braces, or one expression. -/
def arrowBody (rec : Grammar) (async : Bool) : Parser Node := do
  if ← atSign openBrace then inFunction async false (block rec)
  else inContext (fun c => { c with inAsync := async, inGenerator := false }) (rec .assignment)

/-- An arrow function, from its arrow on. -/
def arrowRest (rec : Grammar) (lo : Nat) (async : Bool) (params types : List Node) :
    Parser Node := do
  if (← token).newline then fail
  expectSign "=>"
  let body ← arrowBody rec async
  finish .arrow lo (params ++ [body] ++ types)

/-- An arrow function with parenthesized parameters, from its arrow on. If its body stands in
braces, it may be the first of several operands. -/
def parenthesizedArrow (rec : Grammar) (lo : Nat) (async : Bool) (params types : List Node) :
    Parser Node := do
  let braced := (← peek).isSign openBrace
  let arrow ← arrowRest rec lo async params types
  if braced && (← atOperatorSign) then operationRest rec 0 lo arrow else return arrow

/-- The target of a parameter that was read as an expression. -/
def parameterTarget (expression : Node) : Parser Node :=
  match expression with
  | .propertyName .. => return expression
  | e => match e.asPattern? .binding with
    | some target => return target
    | none => fail

/-- An item in parentheses where types may be written: an expression, or a parameter with its type.
A question mark that no operand follows marks the parameter as optional. -/
def typedItem (rec : Grammar) : Parser Node := do
  let lo ← position
  repeating () fun () => do
    let next ← peek
    if (← token).isWordOf parameterModifiers && !next.newline &&
        (next.isName && !next.isWordOf ["as", "satisfies", "in", "of"]) then
      advance
      return .more ()
    return .done ()
  let spread ← eatSign "..."
  let expression ← do
    if (← atWord "this") && (← peek).isSign ":" then word
    else if (← token).isName && (← peek).isSign "?" then
      -- a condition, unless the mark belongs to a parameter
      let optional ← succeeds do
        advance
        advance
        unless ← atSignOf [",", ":", ")", "="] do fail
      if optional then name else rec .assignment
    else rec .assignment
  let marked ← do
    if (← atSign "?") then advance; pure true
    else pure false
  if marked || (← atSign ":") then
    let target ← parameterTarget expression
    let annotation ← typeAnnotation? rec
    let fallback ← if spread then pure [] else initializer? rec
    finish (if spread then .rest else .parameter) lo (target :: annotation ++ fallback)
  else if spread then return .spread (← spanFrom lo) expression
  else return expression

/-- The items in parentheses, and whether a comma stands behind the last. -/
def parenItems (rec : Grammar) : Parser (List Node × Bool) := do
  expectSign "("
  let item := if ← typed then typedItem rec else spreadable rec
  bracketed <| repeating (([] : List Node), false) fun (items, comma) => do
    if ← eatSign ")" then return .done (items.reverse, comma)
    let items := (← item) :: items
    if ← eatSign "," then return .more (items, true)
    expectSign ")"
    return .done (items.reverse, false)

/-- Is this item surely a parameter? -/
def isParameter : Node → Bool
  | .construct .parameter _ _ | .construct .rest _ _ => true
  | _ => false

/-- The type behind parenthesized parameters, if an arrow follows it. -/
def arrowResult? (rec : Grammar) : Parser (List Node) := do
  if (← typed) && !(← read).awaitsColon && (← atSign ":") then
    let result ← optionally do
      let result ← returnType? rec
      unless ← atSign "=>" do fail
      return result
    return result.getD []
  return []

/-- The parameters that items in parentheses stand for. -/
def asParameters (items : List Node) : Parser (List Node) := do
  match items.mapM fun i => if isParameter i then some i else i.asPattern? .binding with
  | some params => return params
  | none => fail

/-- An arrow function with a type behind its parameters, where an enclosing condition waits for its
colon: the colon of the condition has to follow it. -/
def awaitedArrow? (rec : Grammar) (lo : Nat) (async : Bool) (items : List Node) :
    Parser (Option Node) := do
  if (← typed) && (← read).awaitsColon && (← atSign ":") then
    optionally do
      let result ← returnType? rec
      let arrow ← arrowRest rec lo async (← asParameters items) result
      unless ← atSign ":" do fail
      return arrow
  else return none

/-- What items in parentheses are that no arrow follows: the arguments of a call of `async`, or an
expression. -/
def parenthesizedItems (lo : Nat) (async? : Option Span) (items : List Node) (comma : Bool) :
    Parser Node := do
  match async? with
  | some s => return .call (← spanFrom lo) .plain (.identifier s "async") items []
  | none =>
    if comma || items.any (fun | .spread .. => true | _ => false) then fail
    let span ← spanFrom lo
    match items with
    | [] => fail
    | [inner] => return .paren span inner
    | first :: _ =>
      return .paren span
        (.construct .sequence (first.span.through (items.getLast?.getD first).span) items)

/-- Parentheses: an arrow function, a call of `async` if `async?` gives its place, or an expression.
-/
def parenthesized (rec : Grammar) (async? : Option Span) (mayBeArrow : Bool) : Parser Node := do
  let here ← position
  let lo := (async?.map Span.lo).getD here
  let (items, comma) ← parenItems rec
  if mayBeArrow then
    if let some arrow ← awaitedArrow? rec lo async?.isSome items then return arrow
  let result ← arrowResult? rec
  if !result.isEmpty || items.any isParameter || (← atSign "=>") then
    unless mayBeArrow do fail
    parenthesizedArrow rec lo async?.isSome (← asParameters items) result
  else parenthesizedItems lo async? items comma

/-- A generic arrow function, from its type parameters on; `lo` is where it began. -/
def genericArrow (rec : Grammar) (lo : Nat) (async? : Option Span) : Parser Node := do
  let generics ← typeParameters rec
  unless ← atSign "(" do fail
  match ← inContext (fun c => { c with awaitsColon := false }) (parenthesized rec async? true) with
  | .construct .arrow s members => return .construct .arrow ⟨lo, s.hi⟩ (members ++ [generics])
  | _ => fail

/-! ## Names, keywords and primary expressions -/

/-- A name, or an arrow function with that name for its parameter. -/
def nameOrArrow (rec : Grammar) (mayBeArrow : Bool) : Parser Node := do
  let lo ← position
  let id ← name
  if mayBeArrow && (← atSign "=>") then arrowRest rec lo false [id] [] else return id

/-- An expression that begins with `async`, which is the current token. -/
def asyncExpression (rec : Grammar) (mayBeArrow : Bool) : Parser Node := do
  let t ← token
  let lo := t.span.lo
  let next ← peek
  if next.newline then nameOrArrow rec mayBeArrow
  else if next.isWord "function" then
    advance
    function rec lo true false
  else if next.isName && mayBeArrow && (← succeeds do advance; advance; expectSign "=>") then
    advance
    let param ← name
    arrowRest rec lo true [param] []
  else if next.isSign "(" && mayBeArrow then
    advance
    parenthesized rec (some t.span) mayBeArrow
  else if next.isSign "<" && mayBeArrow && (← typed) then
    orElse
      (do
        advance
        genericArrow rec lo (some t.span))
      name
  else nameOrArrow rec mayBeArrow

/-- An expression without operators, accesses and calls. -/
def primary (rec : Grammar) : Parser Node := do
  let t ← token
  let lo := t.span.lo
  let mayBeArrow := (← get).arrowStart == some lo
  match t.kind with
  | .string value =>
    advance
    return .string t.span value
  | .number => leaf .number
  | .bigint => leaf .bigint
  | .backtick => template lo false (rec .expression)
  | .privateName n =>
    advance
    unless ← atWord "in" do fail
    return .privateName t.span n
  | .word w false =>
    if w == "function" then function rec lo false false
    else if w == "class" then classDefinition rec lo false
    else if w == "this" then leaf .this
    else if w == "null" then leaf .null
    else if w == "true" || w == "false" then leaf .boolean
    else if w == "async" then asyncExpression rec mayBeArrow
    else nameOrArrow rec mayBeArrow
  | .word _ true => nameOrArrow rec mayBeArrow
  | .punctuation p =>
    if p == "(" then parenthesized rec none mayBeArrow
    else if p == "[" then array rec
    else if p == openBrace then object rec
    else if p == "/" || p == "/=" then regex
    else if p == "<" && (← read).dialect.hasMarkup then
      let inner ← rec .element
      advance
      return inner
    else fail
  | _ => fail

/-! ## Accesses and calls -/

/-- The arguments of a call, in parentheses. -/
def arguments (rec : Grammar) : Parser (List Node) := do
  expectSign "("
  bracketed (commaItems ")" (spreadable rec))

/-- The word or private name behind the dot of an access. -/
def memberName : Parser (Selector Node) := do
  let t ← token
  match t.kind with
  | .privateName n =>
    advance
    return .privateName t.span n
  | .word n _ =>
    advance
    return .name t.span n
  | _ => fail

/-- An expression in brackets behind the object of an access, with the span of the brackets. -/
def index (rec : Grammar) : Parser (Span × Node) := do
  let lo ← position
  expectSign "["
  let inner ← bracketed (rec .expression)
  expectSign "]"
  return (← spanFrom lo, inner)

/-- May the token stand behind type arguments that no call follows? -/
def endsTypeApplication (t : Token) : Bool :=
  t.newline || match t.kind with
    | .punctuation p =>
      !(["(", "[", "<", ">", "+", "-", "!", "~", "++", "--", "/", "/=", "...",
        openBrace].contains p)
    | .word w _ => ["in", "instanceof", "as", "satisfies"].contains w
    | .endOfText => true
    | _ => false

/-- Type arguments behind an expression with the call or template that they belong to. -/
def applied (rec : Grammar) (lo : Nat) (base : Node) (calls : Bool) : Parser Node := do
  let types ← typeArguments rec
  if calls && (← atSign "(") then
    let args ← arguments rec
    let link := if base.inChain then Link.chained false else .plain
    return .call (← spanFrom lo) link base args [types]
  else
    let t ← token
    if t.kind == .backtick then
      let text ← template t.span.lo true (rec .expression)
      finish .taggedTemplate lo [base, types, text]
    else if calls && endsTypeApplication t then
      finish .typeApplication lo [base, types]
    else fail

/-- Type arguments behind an expression, in a chain of accesses and calls. The chain ends before a
sign that opens no such arguments. -/
def appliedStep (rec : Grammar) (lo : Nat) (base : Node) (calls : Bool) :
    Parser (Step Node Node) := do
  match ← optionally (applied rec lo base calls) with
  | some n => return .more n
  | none => return .done base

/-- The link behind the sign `?.`. -/
def chainedLink (rec : Grammar) (lo : Nat) (base : Node) : Parser Node := do
  expectSign "?."
  if ← atSign "(" then
    let args ← arguments rec
    return .call (← spanFrom lo) (.chained true) base args []
  else if ← atSign "[" then
    let (span, key) ← index rec
    return .member (← spanFrom lo) (.chained true) base (.computed span key)
  else if (← typed) && (← atSign "<") then
    let types ← typeArguments rec
    let args ← arguments rec
    return .call (← spanFrom lo) (.chained true) base args [types]
  else
    let k ← memberName
    return .member (← spanFrom lo) (.chained true) base k

/-- Accesses, calls and templates behind an expression that began at `lo`; calls only if `calls`
allows them. -/
def subscripts (rec : Grammar) (lo : Nat) (base : Node) (calls : Bool) : Parser Node :=
  repeating base fun base => do
    let t ← token
    let link := if base.inChain then Link.chained false else .plain
    match t.kind with
    | .backtick =>
      let text ← template t.span.lo true (rec .expression)
      return .more (← finish .taggedTemplate lo [base, text])
    | .punctuation p =>
      if p == "." then
        advance
        let k ← memberName
        return .more (.member (← spanFrom lo) link base k)
      else if p == "[" then
        let (span, key) ← index rec
        return .more (.member (← spanFrom lo) link base (.computed span key))
      else if p == "(" && calls then
        let args ← arguments rec
        return .more (.call (← spanFrom lo) link base args [])
      else if p == "?." && calls then
        return .more (← chainedLink rec lo base)
      else if p == "!" && !t.newline && (← typed) then
        advance
        return .more (← finish .nonNull lo [base])
      else if p == "<" && (← typed) then appliedStep rec lo base calls
      else return .done base
    | _ => return .done base

/-- What `super` stands before: a call or, in methods, an access. -/
def superExpression (rec : Grammar) : Parser Node := do
  let t ← token
  expectWord "super"
  if ← atSign "(" then
    let args ← arguments rec
    return .call (← spanFrom t.span.lo) .plain (.construct .superKeyword t.span []) args []
  else if !(← read).hasSuper then fail
  else if ← eatSign "." then
    finish .superMember t.span.lo [← word]
  else
    let (span, key) ← index rec
    finish .superMember t.span.lo [.computed span key]

/-- The arguments of an imported module. Only where types may be written may a comma stand behind
the last. -/
def importArguments (rec : Grammar) : Parser (List Node) := do
  expectSign "("
  bracketed <| repeating ([] : List Node) fun args => do
    if ← eatSign ")" then
      if args.isEmpty || (← typed) then return .done args.reverse
      fail
    let args := (← spreadable rec) :: args
    if ← eatSign "," then return .more args
    expectSign ")"
    return .done args.reverse

/-- What `import` stands before in an expression: a call or a property of the module. -/
def importExpression (rec : Grammar) : Parser Node := do
  let t ← token
  expectWord "import"
  if ← eatSign "." then
    let phase ← token
    discard word
    if phase.isWordOf ["source", "defer"] then
      let args ← importArguments rec
      return .call (← spanFrom t.span.lo) .plain (.construct .importKeyword t.span []) args []
    unless phase.isWord "meta" do fail
    finish .metaProperty t.span.lo []
  else
    let args ← importArguments rec
    return .call (← spanFrom t.span.lo) .plain (.construct .importKeyword t.span []) args []

/-- An instance made with `new`, which is the current token. Its operand is no optional chain. -/
def instantiation (rec : Grammar) : Parser Node := do
  let lo ← position
  expectWord "new"
  if ← eatSign "." then
    expectWord "target"
    finish .metaProperty lo []
  else
    let callee ← rec .constructed
    if ← atSign "?." then fail
    let types ← do
      if (← typed) && (← atSign "<") then
        pure (← optionally (typeArguments rec)).toList
      else pure []
    let args ← if ← atSign "(" then arguments rec else pure []
    finish .instantiation lo (callee :: args ++ types)

/-- The operand of `new`: accesses without calls. -/
def constructed (rec : Grammar) : Parser Node := do
  let lo ← position
  let base ← do
    if ← atWord "new" then instantiation rec
    else if ← atWord "super" then superExpression rec
    else if (← atWord "import") && (← peek).isSign "." then importExpression rec
    else primary rec
  subscripts rec lo base false

/-- Accesses and calls. -/
def leftHandSide (rec : Grammar) : Parser Node := do
  let lo ← position
  let base ← do
    if ← atWord "new" then instantiation rec
    else if ← atWord "super" then superExpression rec
    else if ← atWord "import" then importExpression rec
    else primary rec
  if base.isArrow then return base
  subscripts rec lo base true

/-! ## Operators -/

/-- May an operand begin with this token? -/
def startsOperand (t : Token) : Bool :=
  match t.kind with
  | .word w _ => !(["in", "instanceof"].contains w)
  | .string _ | .number | .bigint | .backtick | .privateName _ => true
  | _ => t.isSignOf ["(", "[", "!", "~", "+", "-", "++", "--", "/", "/=", "<", openBrace]

/-- A cast in angle brackets. -/
def bracketCast (rec : Grammar) : Parser Node := do
  let lo ← position
  expectSign "<"
  let types ← if (← atWord "const") && (← peek).isSign ">" then
      advance
      pure []
    else pure [← bracketed (rec .type)]
  expectSign ">"
  let inner ← rec .unary
  finish .cast lo (inner :: types)

/-- Is the current word `await` an operator? Outside asynchronous functions it is a name, unless an
operand follows on the same line. -/
def atAwaitOperator : Parser Bool := do
  if ← atWord "await" then
    let next ← peek
    return (← read).inAsync ||
      (startsOperand next && !next.newline && !next.isWordOf ["of", "as", "satisfies"])
  return false

/-- A node for an operand that is missing before the current token. -/
def missingOperand : Parser Node := do
  let lo ← position
  return .construct .missing ⟨lo, lo⟩ []

/-- An operand with the operators before and behind it. An operand that is missing behind its
operator is forgiven. -/
def unary (rec : Grammar) : Parser Node := do
  let t ← token
  let lo := t.span.lo
  if t.isSignOf ["++", "--"] then
    advance
    finish .update lo [← rec .unary]
  else if t.isSignOf ["!", "~", "+", "-"] || t.isWordOf ["delete", "void", "typeof"] then
    advance
    finish .unary lo [← orMissing (rec .unary) (← missingOperand)]
  else if ← atAwaitOperator then
    advance
    finish .await lo [← rec .unary]
  else if t.isSign "<" && (← read).dialect == .typed then bracketCast rec
  else
    let operand ← leftHandSide rec
    if operand.isArrow then return operand
    let after ← token
    if after.isSignOf ["++", "--"] && !after.newline then
      advance
      finish .update lo [operand]
    else return operand

/-- Operands joined by operators that bind at least as tightly as `least`. -/
def operation (rec : Grammar) (least : Nat) : Parser Node := do
  let lo ← position
  let first ← rec .unary
  if first.isArrow then return first
  operationRest rec least lo first

/-! ## Conditions and assignments -/

/-- Does the current token only join operands, so that the first of them is missing? -/
def atJoiningOperator : Parser Bool := do
  return (← operator?).any fun op => !(["+", "-", "<", "/"].contains op.text)

/-- A condition with its two outcomes, if a question mark follows its test. -/
def conditional (rec : Grammar) : Parser Node := do
  let lo ← position
  let test ← do
    if ← atJoiningOperator then operationRest rec 0 lo (← missingOperand)
    else operation rec 0
  if test.isArrow then return test
  if ← eatSign "?" then
    let yes ← inContext (fun c => { c with allowIn := true, awaitsColon := true }) (rec .assignment)
    expectSign ":"
    let no ← inContext (fun c => { c with awaitsColon := false }) (rec .assignment)
    finish .conditional lo [test, yes, no]
  else return test

/-- The operators of assignments. -/
def assignmentOperators : List String :=
  ["=", "+=", "-=", "*=", "/=", "%=", "**=", "<<=", ">>=", ">>>=", "&=", "^=", "|=", "&&=", "||=",
    "??="]

/-- Is the node an operation or condition, which cannot be assigned to? -/
def isOperation : Node → Bool
  | .logical .. => true
  | .construct k _ _ => [.binary, .conditional, .unary, .update, .arrow].contains k
  | _ => false

/-- The value that a generator hands out, from `yield` on. -/
def yieldExpression (rec : Grammar) : Parser Node := do
  let lo ← position
  expectWord "yield"
  let t ← token
  if !t.newline && (t.isSign "*" || startsOperand t) then
    discard (eatSign "*")
    finish .yield lo [← rec .assignment]
  else finish .yield lo []

/-- An assignment from behind its left side on, or that side alone if no operator of an assignment
follows it. -/
def assignmentRest (rec : Grammar) (lo : Nat) (left : Node) : Parser Node := do
  match ← operatorText? with
  | some (op, stop) =>
    if assignmentOperators.contains op then
      match left.asTarget? op with
      | none => fail
      | some target =>
        moveTo stop
        let value ← rec .assignment
        return .assign (← spanFrom lo) op target value
    else return left
  | none => return left

/-- An assignment, or what may stand on its right side. -/
def plainAssignment (rec : Grammar) : Parser Node := do
  if (← atWord "yield") && (← read).inGenerator then yieldExpression rec
  else
    let lo ← position
    modify fun s => { s with arrowStart := some lo }
    let left ← conditional rec
    if isOperation left then return left
    assignmentRest rec lo left

/-- An assignment or arrow function. Where types may be written, an angle bracket opens markup, a
generic arrow function or a cast, in this order. -/
def assignment (rec : Grammar) : Parser Node := do
  if (← typed) && (← atSign "<") then
    let lo ← position
    let attempt := inContext (fun c => { c with awaitsColon := false }) (genericArrow rec lo none)
    if (← read).dialect.hasMarkup then
      orElse (plainAssignment rec) attempt
    else orElse attempt (plainAssignment rec)
  else plainAssignment rec

/-- Expressions with commas between them. -/
def expression (rec : Grammar) : Parser Node := do
  let lo ← position
  let first ← rec .assignment
  if ← atSign "," then
    let all ← repeating [first] fun items => do
      if ← eatSign "," then return .more ((← rec .assignment) :: items)
      return .done items.reverse
    finish .sequence lo all
  else return first

end ProseLint.Syntax.Grammar
