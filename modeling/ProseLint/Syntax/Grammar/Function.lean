import ProseLint.Syntax.Grammar.Type

/-!
# Grammar: bindings, functions and classes

A function's node holds its name, its parameters and its body, then its types. A class's node holds
its members before the expression that it extends.
-/

namespace ProseLint.Syntax.Grammar

open ProseLint.Syntax.Parser

/-- A value behind an equals sign. -/
def initializer? (rec : Grammar) : Parser (List Node) := do
  if ← eatSign "=" then return [← rec .assignment]
  return []

/-- A name or pattern with the default that stands in for a missing value. -/
def defaultedBinding (rec : Grammar) : Parser Node := do
  let lo ← position
  let target ← rec .binding
  match ← initializer? rec with
  | [] => return target
  | fallback => finish .defaulted lo (target :: fallback)

/-- A part of an array pattern. -/
def elementBinding (rec : Grammar) : Parser Node := do
  let lo ← position
  if (← atSign ",") then return .construct .hole ⟨lo, lo⟩ []
  if ← eatSign "..." then
    finish .rest lo [← rec .binding]
  else defaultedBinding rec

/-- A part of an object pattern. -/
def propertyBinding (rec : Grammar) : Parser Node := do
  let lo ← position
  if ← eatSign "..." then
    finish .rest lo [← rec .binding]
  else
    let t ← token
    let k ← key rec
    if ← eatSign ":" then
      finish .keyedPattern lo [k, ← defaultedBinding rec]
    else match t.word? with
      | some n => finish .shorthandPattern lo (.identifier t.span n :: (← initializer? rec))
      | none => fail

/-- Is the node the rest of an object, taken by another pattern than a name? -/
def isNestedRest : Node → Bool
  | .construct .rest _ [.identifier ..] => false
  | .construct .rest _ _ => true
  | _ => false

/-- A name or a pattern that binds names. -/
def binding (rec : Grammar) : Parser Node := do
  let lo ← position
  if ← eatSign "[" then
    finish .arrayPattern lo (← bracketed (commaItems "]" (elementBinding rec)))
  else if ← eatSign openBrace then
    let parts ← bracketed (commaItems closeBrace (propertyBinding rec))
    if parts.getLast?.any isNestedRest then fail
    finish .objectPattern lo parts
  else name

/-- Statements in braces. -/
def block (rec : Grammar) : Parser Node := do
  let lo ← position
  expectSign openBrace
  finish .block lo (← itemsUntil closeBrace (rec (.statement .block)))

/-- The parts of a function from its parameters on. Where types may be written, the body may be
missing at the end of a statement. -/
def functionParts (rec : Grammar) (async generator : Bool) : Parser (List Node) :=
  inFunction async generator do
    let generics ← typeParameters? rec
    let params ← parameters rec
    let result ← returnType? rec
    if (← typed) && !(← atSign openBrace) then
      endStatement
      return params ++ generics ++ result
    else
      let body ← block rec
      return params ++ [body] ++ generics ++ result

/-- A function from the word `function` on; a declaration has to be `named`. -/
def function (rec : Grammar) (lo : Nat) (async named : Bool) : Parser Node := do
  expectWord "function"
  let generator ← eatSign "*"
  let label ← if !named && (← atSignOf ["(", "<"]) then pure [] else pure [← name]
  finish .function lo (label ++ (← outsideMethod (functionParts rec async generator)))

/-- The parameters and the body of a method, as `functionParts` reads them. -/
def methodParts (rec : Grammar) (async generator : Bool) : Parser (List Node) :=
  inMethod (functionParts rec async generator)

/-- A method with the kind that its modifiers gave it, from its key on. -/
def method (rec : Grammar) (lo : Nat) (kind : Construct) (async generator : Bool) :
    Parser Node := do
  let k ← key rec
  finish kind lo (k :: (← methodParts rec async generator))

/-- The words that may stand before a member of a class where types may be written. -/
def memberModifiers : List String :=
  ["public", "private", "protected", "readonly", "abstract", "override", "declare", "accessor"]

/-- Is the current word a modifier of a member, rather than its key? -/
def atMemberModifier : Parser Bool := do
  let t ← token
  let next ← peek
  let named := match next.kind with
    | .word .. | .string _ | .number | .bigint | .privateName _ => true
    | _ => next.isSignOf ["[", "*"]
  return named && (t.isWord "static" || ((← typed) && t.isWordOf memberModifiers && !next.newline))

/-- Is the current token the key of the constructor? -/
def atConstructorKey : Parser Bool := do
  match (← token).kind with
  | .word n _ | .string n => return n == "constructor"
  | _ => return false

/-- A field of a class, from behind its key on. A field with a type or a value may stand on one line
with what follows it. -/
def field (rec : Grammar) (lo : Nat) (k : Node) : Parser Node := do
  if ← typed then discard (eatSign "?")
  let bare := !(← atSign "=") && !((← typed) && (← atSignOf [":", "!"]))
  if ← typed then discard (eatSign "!")
  let annotation ← typeAnnotation? rec
  let value ← inMethod (inFunction false false (initializer? rec))
  if bare then endStatement else discard (eatSign ";")
  finish .field lo (k :: value ++ annotation)

/-- A method, accessor or field of a class, behind its modifiers; one of them may have made it
`static`. -/
def keyedMember (rec : Grammar) (lo : Nat) (static : Bool) : Parser Node := do
  if ← eatSign "*" then method rec lo .method false true
  else if (← atKeyModifier ["get"]) && !(← peek).isSign "*" then
    advance
    method rec lo .getter false false
  else if (← atKeyModifier ["set"]) && !(← peek).isSign "*" then
    advance
    method rec lo .setter false false
  else if (← atKeyModifier ["async"]) && !(← peek).newline then
    advance
    let generator ← eatSign "*"
    if !static && (← atConstructorKey) then fail
    method rec lo .method true generator
  else
    let constructs ← atConstructorKey
    let k ← key rec
    if ← typed then
      if (← atSign "?") && (← peek).isSignOf ["(", "<"] then advance
    if (← atSign "(") || ((← typed) && (← atSign "<")) then
      finish .method lo (k :: (← methodParts rec false false))
    else if constructs then fail
    else field rec lo k

/-- A member of a class. -/
def classMember (rec : Grammar) : Parser Node := do
  let lo ← position
  if ← eatSign ";" then finish .emptyStatement lo []
  else
    let static ← repeating false fun static => do
      if ← atMemberModifier then
        let here ← atWord "static"
        advance
        return .more (static || here)
      return .done static
    if (← atWord "static") && (← peek).isSign openBrace then
      advance
      let body ← inMethod (inFunction false false (block rec))
      finish .staticBlock lo [body]
    else if (← typed) && (← atIndexSignature) then
      let parts ← bracketed (indexSignature rec)
      endStatement
      finish .typeMember lo parts
    else keyedMember rec lo static

/-- Types with commas between them. -/
def typeList (rec : Grammar) : Parser (List Node) := do
  repeating [← rec .typeOperand] fun types => do
    if ← eatSign "," then return .more ((← rec .typeOperand) :: types)
    return .done types.reverse

/-- A class from the word `class` on; a declaration has to be `named`. -/
def classDefinition (rec : Grammar) (lo : Nat) (named : Bool) : Parser Node := do
  expectWord "class"
  let t ← token
  if t.isWord "let" then fail
  let label ← do
    if named || (t.isName && !(t.isWord "implements" && (← typed))) then pure [← name]
    else pure []
  let generics ← typeParameters? rec
  let (base, baseTypes) ← do
    if ← eatWord "extends" then
      let base ← rec .leftHandSide
      let types ← if (← typed) && (← atSign "<") then pure [← typeArguments rec] else pure []
      pure ([base], types)
    else pure ([], [])
  let contracts ← do
    if (← typed) && (← eatWord "implements") then typeList rec else pure []
  expectSign openBrace
  let members ← bracketed (itemsUntil closeBrace (classMember rec))
  finish .classBody lo (label ++ members ++ base ++ generics ++ baseTypes ++ contracts)

end ProseLint.Syntax.Grammar
