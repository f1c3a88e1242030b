import ProseLint.Syntax.Grammar.Expression

/-!
# Grammar: statements

Declarations, control flow, modules, and the declarations that only describe types.
-/

namespace ProseLint.Syntax.Grammar

open ProseLint.Syntax.Parser

/-! ## Variables -/

/-- How variables are declared. -/
structure VariableKind where
  /-- Are they declared with `let` or `const`? -/
  lexical : Bool
  /-- Are they declared in the head of a loop? -/
  inLoop : Bool

/-- May a pattern here lack the value that it takes apart: in a description, or in the head of a
loop that gives it one? -/
def mayLackValue (kind : VariableKind) : Parser Bool := do
  return (← read).described || (kind.inLoop && ((← atWord "in") || (← atWord "of")))

/-- The target of a declarator with its type. -/
def declared (target : Node) : List Node → Node
  | [] => target
  | types => .construct .parameter target.span (target :: types)

/-- A declarator. -/
def declarator (rec : Grammar) (kind : VariableKind) : Parser Node := do
  let lo ← position
  if kind.lexical && (← atWord "let") then fail
  let target ← rec .binding
  if ← typed then discard (eatSign "!")
  let annotation ← typeAnnotation? rec
  if ← eatSign "=" then
    let init ← inContext (fun c => { c with allowIn := c.allowIn || kind.lexical })
      (rec .assignment)
    return .declarator (← spanFrom lo) (declared target annotation) init
  else
    let named := match target with
      | .identifier .. => true
      | _ => false
    unless named || (← mayLackValue kind) do fail
    finish .bareDeclarator lo [declared target annotation]

/-- Declarators with commas between them. A list that breaks off before a semicolon or the end of
the text is forgiven. -/
def declarators (rec : Grammar) (kind : VariableKind) : Parser (List Node) :=
  repeating ([] : List Node) fun items => do
    if (← atSign ";") || (← token).isEnd then return .done items.reverse
    let items := (← declarator rec kind) :: items
    if ← eatSign "," then return .more items
    return .done items.reverse

/-- Does a declaration with `let` begin here? -/
def atLet : Parser Bool := do
  if ← atWord "let" then
    let next ← peek
    return (next.isName && !next.isWordOf ["in", "instanceof", "of"]) || next.isWord "of" ||
      next.isSignOf ["[", openBrace]
  return false

/-- Does a declaration with `using` begin here? -/
def atUsing : Parser Bool := do
  let next ← peek
  return (← atWord "using") && next.isName && !next.newline && !next.isWordOf ["in", "of"]

/-- Does a declaration with `await using` begin here? -/
def atAwaitUsing : Parser Bool := do
  if ← atWord "await" then
    succeeds do
      advance
      if (← token).newline then fail
      unless ← atUsing do fail
  else return false

/-- Does a declaration of variables begin here? -/
def atVariables : Parser Bool := do
  return (← atWord "var") || (← atWord "const") || (← atLet) || (← atUsing) || (← atAwaitUsing)

/-- A declaration of variables without its end. -/
def variableDeclaration (rec : Grammar) (inLoop : Bool) : Parser Node := do
  let lo ← position
  let lexical := (← atWord "let") || (← atWord "const")
  if ← atWord "await" then advance
  advance
  finish .variableDeclaration lo (← declarators rec ⟨lexical, inLoop⟩)

/-- Passes the end of a declaration of variables. What stands before the end in error is passed
over. -/
def endVariables (rec : Grammar) : Parser Unit := do
  unless (← atSign ";") || (← atImpliedEnd) do discard (optionally (rec .expression))
  repeating () fun () => do
    if (← eatSign ";") || (← atImpliedEnd) || (← token).kind == .invalid then return .done ()
    advance
    return .more ()

/-! ## Control flow -/

/-- A condition in parentheses. -/
def condition (rec : Grammar) : Parser Node := do
  expectSign "("
  let test ← bracketed (rec .expression)
  expectSign ")"
  return test

/-- An expression up to a sign, which is passed; nothing may stand before it. -/
def expressionUntil (rec : Grammar) (close : String) : Parser (List Node) := do
  if ← eatSign close then return []
  let e ← bracketed (rec .expression)
  expectSign close
  return [e]

/-- The rest of a loop over the parts of something. -/
def loopOver (rec : Grammar) (kind : Construct) (lo : Nat) (left : Node) (source : Parser Node) :
    Parser Node := do
  advance
  let right ← bracketed source
  expectSign ")"
  let body ← rec (.statement .body)
  finish kind lo [left, right, body]

/-- The rest of a loop with test and step, from the semicolon behind its beginning on. -/
def loopWith (rec : Grammar) (lo : Nat) (first : List Node) : Parser Node := do
  expectSign ";"
  let test ← expressionUntil rec ";"
  let step ← expressionUntil rec ")"
  let body ← rec (.statement .body)
  finish .forStatement lo (first ++ test ++ step ++ [body])

/-- What a loop gives the parts of something to, by what stands first in its head. -/
def loopTarget (first : Node) (declared : Bool) : Parser Node := do
  if declared then return first
  match first.asTarget? "=" with
  | some target => return target
  | none => fail

/-- The rest of a loop behind what stands first in its head. -/
def loopRest (rec : Grammar) (lo : Nat) (first : Node) (declared : Bool) : Parser Node := do
  if ← atWord "of" then
    loopOver rec .forOfStatement lo (← loopTarget first declared) (rec .assignment)
  else if ← atWord "in" then
    loopOver rec .forInStatement lo (← loopTarget first declared) (rec .expression)
  else loopWith rec lo [first]

/-- Is the node a loop over the parts of something? -/
def isForOf : Node → Bool
  | .construct .forOfStatement _ _ => true
  | _ => false

/-- A loop from the word `for` on. Only a loop over the parts of something may wait for them. -/
def forLoop (rec : Grammar) : Parser Node := do
  let lo ← position
  expectWord "for"
  let waits ← eatWord "await"
  expectSign "("
  let head := inContext fun c => { c with allowIn := false, awaitsColon := false }
  let loop ← do
    if ← atSign ";" then loopWith rec lo []
    else if ← atVariables then loopRest rec lo (← head (variableDeclaration rec true)) true
    else
      let first ← head (rec .expression)
      loopRest rec lo first false
  if waits && !isForOf loop then fail
  return loop

/-- A branch from the word `if` on. -/
def branch (rec : Grammar) : Parser Node := do
  let lo ← position
  expectWord "if"
  let test ← condition rec
  let yes ← rec (.statement .body)
  let no ← if ← eatWord "else" then pure [← rec (.statement .body)] else pure []
  finish .ifStatement lo (test :: yes :: no)

/-- A loop from the word `do` on; the test is visited before the body. -/
def doLoop (rec : Grammar) : Parser Node := do
  let lo ← position
  expectWord "do"
  let body ← rec (.statement .body)
  expectWord "while"
  let test ← condition rec
  discard (eatSign ";")
  finish .doStatement lo [test, body]

/-- What happens behind a block that may fail: what its failure leads to, and what follows in any
case. Both may be missing. -/
def guards (rec : Grammar) : Parser (List Node) := do
  let lo ← position
  let handler ← do
    if ← eatWord "catch" then
      let param ← do
        if ← eatSign "(" then
          let target ← bracketed (rec .binding)
          let annotation ← typeAnnotation? rec
          expectSign ")"
          pure (target :: annotation)
        else pure []
      let handler ← block rec
      pure [← finish .catchClause lo (param ++ [handler])]
    else pure []
  let finalizer ← if ← eatWord "finally" then pure [← block rec] else pure []
  return handler ++ finalizer

/-- A block that may fail, with what then happens. -/
def guarded (rec : Grammar) : Parser Node := do
  let lo ← position
  expectWord "try"
  let body ← block rec
  finish .tryStatement lo (body :: (← guards rec))

/-- What would happen behind a block that may fail, where there is no such block. It is passed over
and stands for a missing expression. -/
def unguarded (rec : Grammar) : Parser Node := do
  let t ← token
  discard (guards rec)
  return .statement t.span (.construct .missing t.span [])

/-- A case of a `switch`, with the statements up to the next. -/
def switchCase (rec : Grammar) : Parser Node := do
  let lo ← position
  let test ← do
    if ← eatWord "case" then pure [← bracketed (rec .expression)]
    else
      expectWord "default"
      pure []
  expectSign ":"
  let body ← repeating ([] : List Node) fun items => do
    let t ← token
    if t.isWordOf ["case", "default"] || t.isSign closeBrace then return .done items.reverse
    return .more ((← rec (.statement .block)) :: items)
  finish .switchCase lo (test ++ body)

/-- The cases of a choice up to its closing brace; at most one of them takes what no other takes. -/
def switchCases (rec : Grammar) : Parser (List Node) :=
  repeating (([] : List Node), false) fun (cases, complete) => do
    if ← eatSign closeBrace then return .done cases.reverse
    let completes ← atWord "default"
    if completes && complete then fail
    return .more ((← switchCase rec) :: cases, complete || completes)

/-- A choice between cases. -/
def choice (rec : Grammar) : Parser Node := do
  let lo ← position
  expectWord "switch"
  let subject ← condition rec
  expectSign openBrace
  finish .switchStatement lo (subject :: (← switchCases rec))

/-- A jump to a label, if one stands on the same line. -/
def jump (kind : Construct) : Parser Node := do
  let lo ← position
  advance
  let t ← token
  let label ← if t.isName && !t.newline then pure [← name] else pure []
  endStatement
  finish kind lo label

/-- A `return` with or without a value. -/
def returning (rec : Grammar) : Parser Node := do
  let lo ← position
  expectWord "return"
  if (← atSign ";") || (← atImpliedEnd) then
    endStatement
    finish .bareReturn lo []
  else
    let value ← bracketed (rec .expression)
    endStatement
    return .returns (← spanFrom lo) value

/-- A `throw`, whose value stands on the same line. -/
def throwing (rec : Grammar) : Parser Node := do
  let lo ← position
  expectWord "throw"
  if (← token).newline then fail
  let value ← bracketed (rec .expression)
  endStatement
  finish .throwStatement lo [value]

/-! ## Type declarations -/

/-- A name with dots, as of a namespace. -/
def qualifiedName : Parser Node := do
  let first ← name
  qualifiers
  return first

/-- An alias for a type, from the word `type` on. -/
def typeAlias (rec : Grammar) (lo : Nat) : Parser Node := do
  expectWord "type"
  let label ← name
  let generics ← typeParameters? rec
  expectSign "="
  let value ← bracketed (rec .type)
  endStatement
  finish .typeAlias lo (label :: generics ++ [value])

/-- An interface, from the word `interface` on. -/
def interface (rec : Grammar) (lo : Nat) : Parser Node := do
  expectWord "interface"
  let label ← name
  let generics ← typeParameters? rec
  let bases ← if ← eatWord "extends" then typeList rec else pure []
  let members ← typeMembers rec
  finish .interface lo (label :: generics ++ bases ++ members)

/-- A member of an enumeration. -/
def enumMember (rec : Grammar) : Parser Node := do
  let lo ← position
  let k ← key rec
  finish .enumMember lo (k :: (← initializer? rec))

/-- An enumeration, from the word `enum` on. The commas between its members may be missing. -/
def enumeration (rec : Grammar) (lo : Nat) : Parser Node := do
  expectWord "enum"
  let label ← name
  expectSign openBrace
  let members ← bracketed <| itemsUntil closeBrace do
    let member ← enumMember rec
    discard (eatSign ",")
    return member
  finish .enum lo (label :: members)

/-- The statements of a namespace, in braces. -/
def namespaceStatements (rec : Grammar) : Parser Node := do
  let lo ← position
  expectSign openBrace
  inFunction false false do
    finish .block lo (← itemsUntil closeBrace (rec (.statement .module)))

/-- The name of a namespace, or the string that names a described module. -/
def namespaceName : Parser Node := do
  match (← token).kind with
  | .string _ => string
  | _ => qualifiedName

/-- A namespace or a described module, from behind its keyword on. -/
def namespaceBody (rec : Grammar) (lo : Nat) : Parser Node := do
  let label ← namespaceName
  if ← atSign openBrace then
    finish .namespaceBlock lo [label, ← namespaceStatements rec]
  else
    endStatement
    finish .namespaceBlock lo [label]

/-- An alias for a module or a name, from behind the equals sign on. -/
def importAlias (lo : Nat) (label : Node) : Parser Node := do
  let target ← do
    if (← atWord "require") && (← peek).isSign "(" then
      advance
      advance
      let source ← string
      expectSign ")"
      pure source
    else qualifiedName
  endStatement
  finish .importAlias lo [label, target]

/-- Declarations that only types know, or that types may describe; `none` if none begins here. -/
def typeDeclaration? (rec : Grammar) (lo : Nat) : Parser (Option (Parser Node)) := do
  unless ← typed do return none
  let t ← token
  let next ← peek
  let here := !next.newline
  if t.isWord "enum" && next.isName then return some (enumeration rec lo)
  else if t.isWord "const" && next.isWord "enum" then
    return some do
      advance
      enumeration rec lo
  else if t.isWord "interface" && next.isName && here then return some (interface rec lo)
  else if t.isWord "type" && next.isName && here then
    if ← succeeds do advance; advance; unless ← atSignOf ["=", "<"] do fail
    then return some (typeAlias rec lo)
    else return none
  else if t.isWord "abstract" && next.isWord "class" && here then
    return some do
      advance
      classDefinition rec lo true
  else if t.isWordOf ["namespace", "module"] && here &&
      (next.isName ||
        (t.isWord "module" && (match next.kind with | .string _ => true | _ => false))) then
    return some do
      advance
      namespaceBody rec lo
  else if t.isWord "global" && next.isSign openBrace && here then
    return some do
      advance
      finish .namespaceBlock lo [← namespaceStatements rec]
  else return none

/-- A declaration that is only described, from behind `declare` on. -/
def described (rec : Grammar) (lo : Nat) : Parser Node :=
  inContext (fun c => { c with described := true }) do
  let t ← token
  match ← typeDeclaration? rec lo with
  | some p => p
  | none =>
    if t.isWord "function" then function rec lo false true
    else if t.isWord "async" then
      advance
      function rec lo true true
    else if t.isWord "class" then classDefinition rec lo true
    else if ← atVariables then
      let inner ← variableDeclaration rec false
      endVariables rec
      return inner
    else fail

/-- Does `declare` describe a declaration here? -/
def atDescribed : Parser Bool := do
  let next ← peek
  return (← typed) && (← atWord "declare") && !next.newline &&
    next.isWordOf ["function", "class", "abstract", "var", "let", "const", "enum", "interface",
      "type", "namespace", "module", "global", "async", "using"]

/-! ## Modules -/

/-- The place a module is taken from, with the attributes that may follow on the same line where
types may be written. -/
def moduleSource (rec : Grammar) : Parser (List Node) := do
  let source ← string
  let t ← token
  if (← typed) && t.isWordOf ["with", "assert"] && !t.newline then
    advance
    return [source, ← object rec]
  return [source]

/-- A name that a module is imported or exported under: a word or a string. -/
def moduleName : Parser Node := do
  match (← token).kind with
  | .string _ => string
  | _ => word

/-- Passes the word `type` before a name in braces, unless it is itself the name. -/
def skipTypeModifier : Parser Unit := do
  if (← typed) && (← atWord "type") then
    let next ← peek
    let modifier ← do
      if next.isSignOf [",", closeBrace] then pure false
      else if next.isWord "as" then
        succeeds do
          advance
          advance
          -- `type as as x` and `type as` name something called `as`
          unless (← atWord "as") || (← atSignOf [",", closeBrace]) do fail
      else pure true
    if modifier then advance

/-- A name in braces that is imported. What it is called here is a name. -/
def importSpecifier : Parser Node := do
  let lo ← position
  skipTypeModifier
  let named := (← token).isName
  let first ← moduleName
  if ← eatWord "as" then finish .specifier lo [first, ← name]
  else if named then finish .specifier lo [first]
  else fail

/-- A name in braces that is exported, with another name for it. -/
def exportSpecifier : Parser Node := do
  let lo ← position
  skipTypeModifier
  let first ← moduleName
  if ← eatWord "as" then finish .specifier lo [first, ← moduleName]
  else finish .specifier lo [first]

/-- Names in braces. -/
def specifiers (specifier : Parser Node) : Parser (List Node) := do
  expectSign openBrace
  commaItems closeBrace specifier

/-- A namespace object, from the star on. -/
def starSpecifier : Parser Node := do
  let lo ← position
  expectSign "*"
  expectWord "as"
  finish .specifier lo [← name]

/-- What an import names before `from`. Nothing need follow a comma. -/
def importClause : Parser (List Node) := do
  let first ← if (← token).isName then pure [← name] else pure []
  if first.isEmpty || (← eatSign ",") then
    if ← atSign "*" then return first ++ [← starSpecifier]
    if ← atSign openBrace then return first ++ (← specifiers importSpecifier)
  return first

/-- Is the current word `type` a modifier of an import rather than its name? -/
def atTypeModifier : Parser Bool := do
  let next ← peek
  if (← typed) && (← atWord "type") then
    if next.isSignOf [openBrace, "*"] then return true
    if next.isWord "from" then
      return ← succeeds do
        advance
        advance
        unless (← atWord "from") || (← atSign "=") do fail
    return next.isName
  return false

/-- An import, from the word `import` on. -/
def importDeclaration (rec : Grammar) : Parser Node := do
  let lo ← position
  expectWord "import"
  if let .string _ := (← token).kind then
    let source ← moduleSource rec
    endStatement
    finish .importDeclaration lo source
  else
    if ← atTypeModifier then advance
    else if (← token).isWordOf ["source", "defer"] && !(← peek).isWord "from" &&
        !(← peek).isSignOf [",", "="] then
      advance
    if (← typed) && (← token).isName && (← peek).isSign "=" then
      let label ← name
      advance
      importAlias lo label
    else
      let clause ← importClause
      expectWord "from"
      let source ← moduleSource rec
      endStatement
      finish .importDeclaration lo (clause ++ source)

/-- What an export hands out by default, from behind `default` on. -/
def defaultExport (rec : Grammar) (lo : Nat) : Parser Node := do
  let t ← token
  let next ← peek
  if t.isWord "function" then finish .exportDeclaration lo [← function rec t.span.lo false false]
  else if t.isWord "async" && next.isWord "function" && !next.newline then
    advance
    finish .exportDeclaration lo [← function rec t.span.lo true false]
  else if t.isWord "class" then finish .exportDeclaration lo [← classDefinition rec t.span.lo false]
  else if (← typed) && t.isWord "abstract" && next.isWord "class" then
    advance
    finish .exportDeclaration lo [← classDefinition rec t.span.lo false]
  else if (← typed) && t.isWord "interface" && next.isName then
    finish .exportDeclaration lo [← interface rec t.span.lo]
  else
    let value ← bracketed (rec .assignment)
    endStatement
    finish .exportDeclaration lo [value]

/-- Names handed out in braces, with the module that they may come from. -/
def exportNames (rec : Grammar) (lo : Nat) : Parser Node := do
  let names ← specifiers exportSpecifier
  let source ← if ← eatWord "from" then moduleSource rec else pure []
  endStatement
  finish .exportDeclaration lo (names ++ source)

/-- All names of a module handed out, from the star on. -/
def exportAll (rec : Grammar) (lo : Nat) : Parser Node := do
  expectSign "*"
  let label ← if ← eatWord "as" then pure [← moduleName] else pure []
  expectWord "from"
  let source ← moduleSource rec
  endStatement
  finish .exportDeclaration lo (label ++ source)

/-- A declaration that is handed out; a statement without names is none. -/
def exportedDeclaration (rec : Grammar) (lo : Nat) : Parser Node := do
  match ← rec (.statement .block) with
  | .statement .. => fail
  | inner => finish .exportDeclaration lo [inner]

/-- An export, from the word `export` on. -/
def exportDeclaration (rec : Grammar) : Parser Node := do
  let lo ← position
  expectWord "export"
  let t ← token
  let next ← peek
  if ← eatWord "default" then defaultExport rec lo
  else if ← atSign "*" then exportAll rec lo
  else if ← atSign openBrace then exportNames rec lo
  else if (← typed) && t.isWord "type" && next.isSign "*" then
    advance
    exportAll rec lo
  else if (← typed) && t.isWord "type" && next.isSign openBrace then
    advance
    exportNames rec lo
  else if (← typed) && t.isSign "=" then
    advance
    let value ← bracketed (rec .expression)
    endStatement
    finish .exportAssignment lo [value]
  else if (← typed) && t.isWord "as" && next.isWord "namespace" then
    advance
    advance
    let label ← name
    endStatement
    finish .exportAssignment lo [label]
  else if (← typed) && t.isWord "import" then
    finish .exportDeclaration lo [← importDeclaration rec]
  else if t.isWordOf ["var", "const", "let", "function", "class", "async"] ||
      (← atDescribed) || (← typeDeclaration? rec lo).isSome then
    exportedDeclaration rec lo
  else fail

/-! ## Statements -/

/-- A statement that is an expression, or a label with its statement. -/
def expressionStatement (rec : Grammar) : Parser Node := do
  let lo ← position
  if (← token).isName && (← peek).isSign ":" then
    let label ← name
    advance
    let body ← rec (.statement .body)
    finish .labelledStatement lo [label, body]
  else
    let inner ← bracketed (rec .expression)
    if (← atSign ";") || (← atImpliedEnd) then
      endStatement
      return .statement (← spanFrom lo) inner
    else if ← atOperatorSign then
      -- an arrow function ended the expression
      let inner ← bracketed (operationRest rec 0 lo inner)
      return .statement (← spanFrom lo) inner
    else fail

/-- A statement that begins with a call or a property of `import`; its end may be missing. -/
def importStatement (rec : Grammar) : Parser Node := do
  let lo ← position
  let inner ← bracketed (rec .expression)
  discard (eatSign ";")
  return .statement (← spanFrom lo) inner

/-- A statement that begins with a keyword; `none` if the word begins none. -/
def keywordStatement? (rec : Grammar) (place : StatementPlace) (w : String) (lo : Nat) :
    Parser (Option (Parser Node)) := do
  let next ← peek
  match w with
  | "if" => return some (branch rec)
  | "for" => return some (forLoop rec)
  | "while" => return some do
      advance
      let test ← condition rec
      finish .whileStatement lo [test, ← rec (.statement .body)]
  | "do" => return some (doLoop rec)
  | "try" => return some (guarded rec)
  | "catch" | "finally" => return some (unguarded rec)
  | "switch" => return some (choice rec)
  | "break" => return some (jump .breakStatement)
  | "continue" => return some (jump .continueStatement)
  | "return" => return some (returning rec)
  | "throw" => return some (throwing rec)
  | "debugger" => return some do
      advance
      endStatement
      finish .debuggerStatement lo []
  | "with" => return some do
      advance
      let scope ← condition rec
      finish .withStatement lo [scope, ← rec (.statement .body)]
  | "function" => return some (function rec lo false true)
  | "class" => return some (classDefinition rec lo true)
  | "async" =>
    if next.isWord "function" && !next.newline then
      return some do
        advance
        function rec lo true true
    else return none
  | "import" =>
    if next.isSignOf ["(", "."] then return some (importStatement rec)
    else if place == .module then return some (importDeclaration rec)
    else return none
  | "export" => if place == .module then return some (exportDeclaration rec) else return none
  | _ => return none

/-- Does a declaration of variables begin here, as a statement in this place? -/
def atVariableStatement : StatementPlace → Parser Bool
  | .body => atWord "var"
  | .module | .block => atVariables

/-- A statement. -/
def statement (rec : Grammar) (place : StatementPlace) : Parser Node := do
  let t ← token
  let lo := t.span.lo
  if t.isSign openBrace then bracketed (block rec)
  else if t.isSign ";" then leaf .emptyStatement
  else match t.kind with
    | .word w false =>
      match ← typeDeclaration? rec lo with
      | some p => p
      | none =>
        if ← atDescribed then
          advance
          described rec lo
        else if ← atVariableStatement place then
          let inner ← bracketed (variableDeclaration rec false)
          endVariables rec
          return inner
        else match ← keywordStatement? rec place w lo with
          | some p => p
          | none => expressionStatement rec
    | _ => expressionStatement rec

end ProseLint.Syntax.Grammar
