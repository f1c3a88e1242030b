import ProseLint.Syntax.Grammar.Type

/-!
# Grammar: markup

Elements are read partly as tokens and partly, between the tags, as plain text. The rule for an
element stops at the `>` that closes it without passing it, because what follows may be text.
-/

namespace ProseLint.Syntax.Grammar

open ProseLint.Syntax.Parser
open ProseLint.Text (NameChar.isPart)

/-- A node of the kind from an offset to the end of the current token. -/
def finishThrough (kind : Construct) (lo : Nat) (members : List Node) : Parser Node :=
  return .construct kind ⟨lo, (← token).span.hi⟩ members

/-- A name in a tag, in which hyphens may stand. -/
def markupWord : Parser String := do
  match (← token).word? with
  | none => fail
  | some _ =>
    let (characters, stop) := (← get).start.takeWhile fun c => NameChar.isPart c || c == '-'
    moveTo stop
    return String.ofList characters

/-- The name of an element: a word, a word in a namespace, or a path of words. -/
def tagName : Parser String := do
  let first ← markupWord
  if ← eatSign ":" then
    return first ++ ":" ++ (← markupWord)
  repeating first fun path => do
    if ← eatSign "." then return .more (path ++ "." ++ (← markupWord))
    return .done path

/-- A quoted value of an attribute, whose opening quote stands at the place. -/
def markupString (place : Cursor) : Parser Node := do
  match place.rest with
  | quote :: _ =>
    let (_, stop) := (place.skip 1).takeWhile (· != quote)
    if stop.rest.isEmpty then fail
    let stop := stop.skip 1
    moveTo stop
    return .construct .markupString ⟨place.offset, stop.offset⟩ []
  | [] => fail

/-- The value behind the equals sign of an attribute, which is the current token. -/
def attributeValue (rec : Grammar) : Parser Node := do
  match Lexer.skipTrivia (← get).stop false with
  | none => fail
  | some ⟨place, _⟩ =>
    if place.nextIs fun c => c == '\x22' || c == '\x27' then markupString place
    else
      advance
      let lo ← position
      if ← eatSign openBrace then
        let inner ← bracketed (rec .expression)
        expectSign closeBrace
        finish .container lo [inner]
      else if ← atSign "<" then
        let inner ← bracketed (rec .element)
        advance
        return inner
      else fail

/-- An attribute in a tag. -/
def tagAttribute (rec : Grammar) : Parser Node := do
  let lo ← position
  if ← eatSign openBrace then
    expectSign "..."
    let inner ← bracketed (rec .assignment)
    expectSign closeBrace
    finish .spreadAttribute lo [inner]
  else
    let first ← markupWord
    let tagged ← if ← eatSign ":" then pure (first ++ ":" ++ (← markupWord)) else pure first
    let span ← spanFrom lo
    let value ← if ← atSign "=" then pure [← attributeValue rec] else pure []
    finish .attribute lo (.propertyName span tagged :: value)

/-- The expression in braces between tags; the closing brace stays the current token. -/
def container (rec : Grammar) : Parser Node := do
  let lo ← position
  expectSign openBrace
  if ← atSign closeBrace then finishThrough .container lo []
  else
    let spread ← eatSign "..."
    let inner ← bracketed (rec .expression)
    unless ← atSign closeBrace do fail
    finishThrough (if spread then .spreadChild else .container) lo [inner]

/-- What a tag opens: its name, and whether it is closed at once. -/
structure OpeningTag where
  name : String
  node : Node
  closed : Bool

/-- A tag that opens an element, up to its `>`. -/
def openingTag (rec : Grammar) : Parser OpeningTag := do
  let lo ← position
  expectSign "<"
  if ← atSign ">" then
    return ⟨"", ← finishThrough .openingTag lo [], false⟩
  let label ← tagName
  let nameSpan ← spanFrom lo
  let generics ← if (← typed) && (← atSign "<") then pure [← typeArguments rec] else pure []
  let attributes ← repeating ([] : List Node) fun attributes => do
    if ← atSignOf [">", "/"] then return .done attributes.reverse
    return .more ((← tagAttribute rec) :: attributes)
  let closed ← eatSign "/"
  unless ← atSign ">" do fail
  let node ← finishThrough .openingTag lo
    (.construct .tagName nameSpan [] :: attributes ++ generics)
  return ⟨label, node, closed⟩

/-- The rest of a tag that closes an element, from its slash up to its `>`. -/
def closingTag (label : String) : Parser Node := do
  let lo ← position
  expectSign "/"
  let closing ← if ← atSign ">" then pure "" else tagName
  unless closing == label do fail
  unless ← atSign ">" do fail
  finishThrough .closingTag lo []

/-- An element up to its last `>`, which stays the current token. -/
def element (rec : Grammar) : Parser Node := do
  let lo ← position
  let tag ← openingTag rec
  if tag.closed then
    finishThrough .element lo [tag.node]
  else
    repeating ((← get).stop, ([] : List Node)) fun (place, inside) => do
      let (text, place') := place.takeWhile fun c => c != '{' && c != '<'
      let inside := if text.isEmpty then inside
        else .construct .markupText ⟨place.offset, place'.offset⟩ [] :: inside
      moveTo place'
      if ← atSign openBrace then
        let inner ← container rec
        return .more ((← get).stop, inner :: inside)
      else if ← atSign "<" then
        if (← peek).isSign "/" then
          advance
          let last ← closingTag tag.name
          return .done (← finishThrough .element lo (tag.node :: inside.reverse ++ [last]))
        else
          let inner ← bracketed (rec .element)
          return .more ((← get).stop, inner :: inside)
      else fail

end ProseLint.Syntax.Grammar
