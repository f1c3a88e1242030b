import ProseLint.Syntax.Grammar.Basic

/-!
# Grammar: types

Types are read for their extent. Their nodes keep the expressions that keys of type members may
hold, and all nested types as children.
-/

namespace ProseLint.Syntax.Grammar

open ProseLint.Syntax.Parser

/-- A type node over its parts. -/
def typeNode (lo : Nat) (members : List Node) : Parser Node := finish .typeSyntax lo members

/-- A type behind a colon. -/
def typeAnnotation (rec : Grammar) : Parser Node := do
  expectSign ":"
  bracketed (rec .type)

/-- A type behind a colon, if a colon follows and types may be written. -/
def typeAnnotation? (rec : Grammar) : Parser (List Node) := do
  if (← typed) && (← atSign ":") then return [← typeAnnotation rec]
  return []

/-- Arguments of a generic type, in angle brackets. -/
def typeArguments (rec : Grammar) : Parser Node := do
  let lo ← position
  expectSign "<"
  let args ← commaItems ">" (bracketed (rec .type))
  if args.isEmpty then fail
  finish .typeArguments lo args

/-- Arguments of a generic type, if they follow on the same line. -/
def typeArguments? (rec : Grammar) : Parser (List Node) := do
  let t ← token
  if t.isSign "<" && !t.newline then return [← typeArguments rec]
  return []

/-- A parameter of a generic declaration: a name with modifiers, a bound and a default. -/
def typeParameter (rec : Grammar) : Parser Node := do
  let lo ← position
  discard <| repeating () fun () => do
    let t ← token
    let next ← peek
    if t.isWordOf ["const", "in", "out"] && next.word?.isSome && !next.isWord "extends" then
      advance
      return .more ()
    return .done ()
  discard name
  let bound ← if ← eatWord "extends" then pure [← bracketed (rec .type)] else pure []
  let fallback ← if ← eatSign "=" then pure [← bracketed (rec .type)] else pure []
  typeNode lo (bound ++ fallback)

/-- Parameters of a generic declaration, in angle brackets. -/
def typeParameters (rec : Grammar) : Parser Node := do
  let lo ← position
  expectSign "<"
  let params ← commaItems ">" (typeParameter rec)
  if params.isEmpty then fail
  finish .typeParameters lo params

/-- Parameters of a generic declaration, if they follow and types may be written. -/
def typeParameters? (rec : Grammar) : Parser (List Node) := do
  if (← typed) && (← atSign "<") then return [← typeParameters rec]
  return []

/-- The words that may stand before a parameter of a constructor. -/
def parameterModifiers : List String := ["public", "private", "protected", "readonly", "override"]

/-- A parameter of a function: a pattern with modifiers, a type and a default. -/
def parameter (rec : Grammar) : Parser Node := do
  let lo ← position
  if ← typed then
    discard <| repeating () fun () => do
      let next ← peek
      if (← token).isWordOf parameterModifiers &&
          (next.isName || next.isSignOf [openBrace, "["]) && !next.isWordOf ["in", "of"] then
        advance
        return .more ()
      return .done ()
  if ← eatSign "..." then
    let inner ← rec .binding
    let annotation ← typeAnnotation? rec
    finish .rest lo (inner :: annotation)
  else
    let target ← if (← typed) && (← atWord "this") then word else rec .binding
    if ← typed then discard (eatSign "?")
    let annotation ← typeAnnotation? rec
    let fallback ← if ← eatSign "=" then pure [← bracketed (rec .assignment)] else pure []
    finish .parameter lo (target :: annotation ++ fallback)

/-- The parameters of a function, in parentheses. -/
def parameters (rec : Grammar) : Parser (List Node) := do
  expectSign "("
  bracketed (commaItems ")" (parameter rec))

/-- What a function gives back: a type, or the fact that it tells about one of its arguments. -/
def returnType (rec : Grammar) : Parser Node := do
  let lo ← position
  let asserts ← do
    let next ← peek
    if (← atWord "asserts") && next.word?.isSome && !next.newline && !next.isWord "is" then
      advance
      pure true
    else pure false
  let next ← peek
  if (← token).word?.isSome && next.isWord "is" && !next.newline then
    advance
    advance
    typeNode lo [← rec .type]
  else if asserts then
    discard word
    typeNode lo []
  else rec .type

/-- The type that a function gives back, if a colon follows. -/
def returnType? (rec : Grammar) : Parser (List Node) := do
  if (← typed) && (← eatSign ":") then return [← bracketed (returnType rec)]
  return []

/-- The type of a function: its parameters, an arrow and what it gives back. -/
def functionType (rec : Grammar) : Parser Node := do
  let lo ← position
  let generics ← typeParameters? rec
  let params ← parameters rec
  expectSign "=>"
  let result ← returnType rec
  typeNode lo (generics ++ params ++ [result])

/-- Passes what may end a member of a type: a semicolon, a comma, or a line break. -/
def endTypeMember : Parser Unit := do
  unless ← eatSign "," do endStatement

/-- The signature of a function without an arrow. -/
def signature (rec : Grammar) : Parser (List Node) := do
  let generics ← typeParameters? rec
  let params ← parameters rec
  return generics ++ params ++ (← returnType? rec)

/-- Does a bracket open an index signature? -/
def atIndexSignature : Parser Bool := do
  if ← atSign "[" then
    succeeds do
      advance
      discard name
      expectSign ":"
  else return false

/-- The signature for any index, from its bracket on. -/
def indexSignature (rec : Grammar) : Parser (List Node) := do
  expectSign "["
  discard name
  let index ← typeAnnotation rec
  expectSign "]"
  return index :: (← typeAnnotation? rec)

/-- Is the current word a modifier of the key behind it, rather than a key itself? -/
def atKeyModifier (names : List String) : Parser Bool := do
  if (← token).isWordOf names then
    let next ← peek
    return match next.kind with
      | .word .. | .string _ | .number | .bigint | .privateName _ => true
      | _ => next.isSignOf ["[", "*"]
  return false

/-- A member of an object type or interface. -/
def typeMember (rec : Grammar) : Parser Node := do
  let lo ← position
  let parts ← bracketed do
    if ← atSignOf ["(", "<"] then signature rec
    else if (← atWord "new") && (← peek).isSignOf ["(", "<"] then
      advance
      signature rec
    else
      if ← atKeyModifier ["readonly"] then advance
      if ← atIndexSignature then indexSignature rec
      else
        if ← atKeyModifier ["get", "set"] then advance
        let member ← key rec
        discard (eatSign "?")
        if ← atSignOf ["(", "<"] then return member :: (← signature rec)
        return member :: (← typeAnnotation? rec)
  endTypeMember
  finish .typeMember lo parts

/-- The members of an object type or interface, in braces. -/
def typeMembers (rec : Grammar) : Parser (List Node) := do
  expectSign openBrace
  itemsUntil closeBrace (typeMember rec)

/-- Does a brace open a mapped type? -/
def atMappedType : Parser Bool :=
  succeeds do
    expectSign openBrace
    if ← atSignOf ["+", "-"] then advance
    if ← atWord "readonly" then
      if !(← peek).isSign "[" then fail
      advance
    expectSign "["
    discard word
    expectWord "in"

/-- A mapped type, from its brace on. -/
def mappedType (rec : Grammar) : Parser Node := do
  let lo ← position
  expectSign openBrace
  bracketed do
    if ← atSignOf ["+", "-"] then advance
    discard (eatWord "readonly")
    expectSign "["
    discard word
    expectWord "in"
    let domain ← rec .type
    let renamed ← if ← eatWord "as" then pure [← rec .type] else pure []
    expectSign "]"
    if ← atSignOf ["+", "-"] then advance
    discard (eatSign "?")
    let value ← typeAnnotation? rec
    unless ← eatSign "," do
      discard (eatSign ";")
    expectSign closeBrace
    typeNode lo (domain :: renamed ++ value)

/-- An element of a tuple type: a type with an optional label, mark or spread. -/
def tupleElement (rec : Grammar) : Parser Node := do
  let lo ← position
  discard (eatSign "...")
  let labelled ← succeeds do
    discard word
    discard (eatSign "?")
    expectSign ":"
  if labelled then
    advance
    discard (eatSign "?")
    expectSign ":"
  let inner ← rec .type
  discard (eatSign "?")
  typeNode lo [inner]

/-- The words behind the dots of a qualified name. -/
def qualifiers : Parser Unit :=
  repeating () fun () => do
    if ← eatSign "." then
      discard word
      return .more ()
    return .done ()

/-- The type that a module or a value has, from `import` on. -/
def importType (rec : Grammar) : Parser Node := do
  let lo ← position
  expectWord "import"
  expectSign "("
  discard string
  if ← eatSign "," then
    unless ← atSign ")" do discard (bracketed (rec .assignment))
    discard (eatSign ",")
  expectSign ")"
  qualifiers
  typeNode lo (← typeArguments? rec)

/-- The type of a value, from `typeof` on. -/
def valueType (rec : Grammar) : Parser Node := do
  let lo ← position
  expectWord "typeof"
  if ← atWord "import" then
    typeNode lo [← importType rec]
  else
    discard word
    repeating () fun () => do
      if ← eatSign "." then
        match (← token).kind with
        | .privateName _ => advance
        | _ => discard word
        return .more ()
      return .done ()
    typeNode lo (← typeArguments? rec)

/-- A type that stands by itself, without anything behind it. -/
def primaryType (rec : Grammar) : Parser Node := do
  let t ← token
  let lo := t.span.lo
  match t.kind with
  | .string _ | .number | .bigint => leaf .typeSyntax
  | .backtick =>
    match ← template lo true (rec .type) with
    | .template s _ holes => return .construct .typeSyntax s holes
    | _ => fail
  | .punctuation "-" =>
    advance
    match (← token).kind with
    | .number | .bigint =>
      advance
      typeNode lo []
    | _ => fail
  | .punctuation "(" =>
    advance
    let inner ← bracketed (rec .type)
    expectSign ")"
    typeNode lo [inner]
  | .punctuation "[" =>
    advance
    typeNode lo (← bracketed (commaItems "]" (tupleElement rec)))
  | .word "typeof" false => valueType rec
  | .word "import" false => importType rec
  | .word w _ =>
    if ["void", "null", "true", "false", "this"].contains w then leaf .typeSyntax
    else
      discard name
      qualifiers
      typeNode lo (← typeArguments? rec)
  | _ =>
    if ← atSign openBrace then
      if ← atMappedType then mappedType rec
      else typeNode lo (← typeMembers rec)
    else fail

/-- Brackets behind a type: arrays and parts of a type. -/
def postfixType (rec : Grammar) : Parser Node := do
  let lo ← position
  repeating (← primaryType rec) fun base => do
    let t ← token
    if t.isSign "[" && !t.newline then
      advance
      if ← eatSign "]" then return .more (← typeNode lo [base])
      let index ← bracketed (rec .type)
      expectSign "]"
      return .more (← typeNode lo [base, index])
    return .done base

/-- May a type begin with this token? -/
def startsType (t : Token) : Bool :=
  match t.kind with
  | .word w _ =>
    !isReserved w ||
    ["void", "null", "true", "false", "this", "typeof", "import", "new"].contains w
  | .string _ | .number | .bigint | .backtick => true
  | _ => t.isSignOf ["(", "[", "<", "-", openBrace]

/-- The bound of an inferred type, unless it turns out to be a condition. -/
def inferBound (rec : Grammar) : Parser (List Node) := do
  if ← atWord "extends" then
    let waiting := (← read).inTypeCondition
    let bound ← optionally do
      advance
      let bound ← inContext (fun c => { c with inTypeCondition := true }) (rec .type)
      if !waiting && (← atSign "?") then fail
      return bound
    return bound.toList
  return []

/-- A type with operators before it. -/
def typeOperand (rec : Grammar) : Parser Node := do
  let t ← token
  let lo := t.span.lo
  if t.isWordOf ["keyof", "unique", "readonly"] && startsType (← peek) then
    advance
    typeNode lo [← rec .typeOperand]
  else if t.isWord "infer" && (← peek).isName then
    advance
    discard name
    typeNode lo (← inferBound rec)
  else postfixType rec

/-- Types joined by a sign, which may also stand before the first. -/
def joinedTypes (sign : String) (part : Parser Node) : Parser Node := do
  let lo ← position
  let leading ← eatSign sign
  let first ← part
  let all ← repeating [first] fun parts => do
    if ← eatSign sign then return .more ((← part) :: parts)
    return .done parts.reverse
  match all, leading with
  | [only], false => return only
  | parts, _ => typeNode lo parts

/-- The type of a function or constructor where an operand of `|` or `&` may stand. -/
def unionType (rec : Grammar) : Parser Node :=
  joinedTypes "|" (joinedTypes "&" (rec .typeOperand))

/-- Does a function type begin here? -/
def functionType? (rec : Grammar) : Parser (Option Node) := do
  if ← atSign "<" then return some (← functionType rec)
  if ← atSign "(" then optionally (functionType rec)
  else return none

/-- A type without a condition. -/
def unconditionalType (rec : Grammar) : Parser Node := do
  let lo ← position
  match ← functionType? rec with
  | some t => return t
  | none =>
    let next ← peek
    if (← atWord "new") then
      advance
      typeNode lo [← functionType rec]
    else if (← atWord "abstract") && next.isWord "new" then
      advance
      advance
      typeNode lo [← functionType rec]
    else unionType rec

/-- A type, with a condition if one follows. -/
def type (rec : Grammar) : Parser Node := do
  let lo ← position
  let subject ← unconditionalType rec
  let t ← token
  if !(← read).inTypeCondition && t.isWord "extends" && !t.newline then
    advance
    let bound ← inContext (fun c => { c with inTypeCondition := true }) (rec .type)
    expectSign "?"
    let yes ← bracketed (rec .type)
    expectSign ":"
    let no ← bracketed (rec .type)
    typeNode lo [subject, bound, yes, no]
  else return subject

end ProseLint.Syntax.Grammar
