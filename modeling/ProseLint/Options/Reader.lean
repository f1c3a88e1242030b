import ProseLint.Options.Fault
import ProseLint.Syntax.Lexer.Name
import ProseLint.Text.Utf16

/-!
# Reading options

Options are written as a JSON object whose member `excludes` is a list of strings, or as a list
whose only element is that list. Other members are passed over, whatever their value.

The text is read one character at a time. A `State` says what has been read and what may come next;
`step` takes it over one character and `finish` says what it means that the text ends there. Reading
is thus a fold, and the states behind two texts in a row are found one after the other.
-/

namespace ProseLint.Options

/-- What a list or an object of an unknown member is closed by. -/
inductive Bracket where
  | list
  | object
deriving Repr, DecidableEq, Inhabited

/-- Where the list of excludes stands. -/
inductive Home where
  /-- It is the value of the member `excludes`. -/
  | member
  /-- It is the only element of a list. -/
  | element
deriving Repr, DecidableEq, Inhabited

/-- The excludes of the members read so far. -/
abbrev Progress := Option (List String)

/-- What a scalar is read for. -/
inductive Purpose where
  /-- It is the key of a member. -/
  | key (progress : Progress)
  /-- It is the next of the excludes; those before it come last first. -/
  | entry (home : Home) (entries : List String)
  /-- It stands where something else is expected. -/
  | wrong (expected : Expected)
  /-- It is a value inside these brackets, innermost first, of an unknown member. -/
  | skipped (progress : Progress) (brackets : List Bracket)
  /-- It is a key in the innermost of these brackets of an unknown member. -/
  | skippedKey (progress : Progress) (brackets : List Bracket)
deriving Repr, DecidableEq, Inhabited

namespace Purpose

/-- Is the content passed over? Then it need not stand for a text. -/
def isSkipped : Purpose → Bool
  | skipped .. | skippedKey .. => true
  | _ => false

end Purpose

/-- Where a string stands. -/
inductive TextState where
  | plain
  /-- Behind a backslash. -/
  | escape
  /-- Among the four digits of a code: how many bytes were read, their value, and whether all are
  digits. A leading surrogate before it is kept. -/
  | code (lead? : Option Nat) (bytes value : Nat) (valid : Bool)
  /-- Behind a leading surrogate. -/
  | lead (value : Nat)
  /-- Behind a leading surrogate and a backslash. -/
  | leadEscape (value : Nat)
deriving Repr, DecidableEq, Inhabited

/-- Where a numeral stands. -/
inductive NumberState where
  /-- Behind the minus sign. -/
  | minus
  /-- Behind a leading zero. -/
  | zero
  | whole
  /-- Behind the point. -/
  | point
  | fraction
  /-- Behind the mark of the exponent. -/
  | mark
  /-- Behind the sign of the exponent. -/
  | sign
  | exponent
deriving Repr, DecidableEq, Inhabited

/-- What has been read of an options text. -/
inductive State where
  | start
  /-- Behind the bracket of a list that may hold the excludes. -/
  | elementFirst
  /-- Behind the only element of that list. -/
  | elementEnd (entries : List String)
  /-- Behind a comma that follows the only element. -/
  | elementComma
  /-- Behind the brace of the object. -/
  | memberFirst
  /-- Behind a member. -/
  | memberEnd (progress : Progress)
  /-- Behind the comma that follows a member. -/
  | memberNext (progress : Progress)
  /-- Behind the key `excludes`. -/
  | excludesColon
  /-- Behind the key `excludes` for the second time. -/
  | repeated
  /-- Behind an unknown key. -/
  | unknownColon (progress : Progress)
  /-- Where the list of excludes should begin. -/
  | excludes (home : Home)
  /-- Behind the bracket of the list of excludes. -/
  | entryFirst (home : Home)
  /-- Behind one of the excludes. -/
  | entryEnd (home : Home) (entries : List String)
  /-- Behind the comma that follows one of the excludes. -/
  | entryNext (home : Home) (entries : List String)
  /-- Where a value inside the brackets of an unknown member should begin. -/
  | skipValue (progress : Progress) (brackets : List Bracket)
  /-- Behind the innermost of the brackets of an unknown member. -/
  | skipFirst (progress : Progress) (bracket : Bracket) (outer : List Bracket)
  /-- Behind a value in the innermost of the brackets. -/
  | skipEnd (progress : Progress) (bracket : Bracket) (outer : List Bracket)
  /-- Behind a comma in the innermost of the brackets, which is an object. -/
  | skipKey (progress : Progress) (brackets : List Bracket)
  /-- Behind a key in the innermost of the brackets. -/
  | skipColon (progress : Progress) (brackets : List Bracket)
  /-- Inside a string, whose characters so far come last first. -/
  | text (purpose : Purpose) (read : List Char) (state : TextState)
  /-- Inside a word, with these letters to come. -/
  | word (purpose : Purpose) (value : Found) (left : List Char)
  /-- Inside a numeral. -/
  | number (purpose : Purpose) (numeral : Numeral) (state : NumberState)
  /-- Behind the whole value. -/
  | done (entries : List String)
deriving Repr, DecidableEq, Inhabited

/-- Is this one of the characters that may stand between tokens? -/
def isSpace (c : Char) : Bool := c == ' ' || c == '\n' || c == '\t' || c == '\r'

/-- The outcome of one character: the next state, or a cause and how many bytes behind the start of
the character it shows. -/
abbrev Outcome := Except Fault State

/-- A fault that shows before the character. -/
def before (cause : Cause) : Outcome := .error ⟨cause, 0⟩

/-- A fault that shows behind the first byte of the character. -/
def behind (cause : Cause) : Outcome := .error ⟨cause, 1⟩

/-- Behind a value inside the brackets of an unknown member. -/
def afterSkipped (progress : Progress) : List Bracket → State
  | [] => .memberEnd progress
  | bracket :: outer => .skipEnd progress bracket outer

/-- Behind a key. -/
def afterKey (progress : Progress) (key : String) : State :=
  if key == "excludes" then
    match progress with
    | none => .excludesColon
    | some _ => .repeated
  else .unknownColon progress

/-- Behind the list of excludes, whose entries come last first. -/
def afterExcludes (home : Home) (entries : List String) : State :=
  match home with
  | .member => .memberEnd (some entries.reverse)
  | .element => .elementEnd entries.reverse

/-- Behind a scalar, which is a fault where it is of the wrong type. -/
def afterScalar (purpose : Purpose) (value : Found) : Except Cause State :=
  match purpose, value with
  | .key progress, .string text => .ok (afterKey progress text)
  | .entry home entries, .string text => .ok (.entryEnd home (text :: entries))
  | .wrong expected, value => .error (.wrongType value expected)
  | .skipped progress brackets, _ => .ok (afterSkipped progress brackets)
  | .skippedKey progress brackets, _ => .ok (.skipColon progress brackets)
  | .key _, value => .error (.wrongType value .entry)
  | .entry .., value => .error (.wrongType value .entry)

/-- The first character of a value. -/
def startValue (purpose : Purpose) (c : Char) : Outcome :=
  match c with
  | 'n' => .ok (.word purpose .null ['u', 'l', 'l'])
  | 't' => .ok (.word purpose (.boolean true) ['r', 'u', 'e'])
  | 'f' => .ok (.word purpose (.boolean false) ['a', 'l', 's', 'e'])
  | '\x22' => .ok (.text purpose [] .plain)
  | '-' => .ok (.number purpose { negative := true } .minus)
  | '0' => .ok (.number purpose { negative := false } .zero)
  | '[' =>
    match purpose with
    | .skipped progress brackets => .ok (.skipFirst progress .list brackets)
    | .wrong expected => before (.wrongType .sequence expected)
    | _ => behind .noValue
  | '\x7b' =>
    match purpose with
    | .skipped progress brackets => .ok (.skipFirst progress .object brackets)
    | .wrong expected => before (.wrongType .map expected)
    | _ => behind .noValue
  | c =>
    if c.isDigit then .ok (.number purpose (Numeral.addWhole { negative := false } c) .whole)
    else behind .noValue

/-- The first character of one of the excludes. -/
def startEntry (home : Home) (entries : List String) (c : Char) : Outcome :=
  if c == '\x22' then .ok (.text (.entry home entries) [] .plain)
  else startValue (.wrong .entry) c

/-- The first character of the list of excludes. -/
def startExcludes (home : Home) (c : Char) : Outcome :=
  if c == '[' then .ok (.entryFirst home) else startValue (.wrong .excludes) c

/-- The character that a letter behind a backslash stands for. -/
def escaped? (c : Char) : Option Char :=
  match c with
  | '\x22' => some '\x22'
  | '\\' => some '\\'
  | '/' => some '/'
  | 'b' => some '\x08'
  | 'f' => some '\x0c'
  | 'n' => some '\n'
  | 'r' => some '\r'
  | 't' => some '\t'
  | _ => none

/-- Is this the code of a leading surrogate? -/
def isLead (code : Nat) : Bool := 0xD800 ≤ code && code ≤ 0xDBFF

/-- Is this the code of a trailing surrogate? -/
def isTrail (code : Nat) : Bool := 0xDC00 ≤ code && code ≤ 0xDFFF

/-- Behind the four digits of a code: surrogates must come in pairs, unless they are passed over. -/
def endCode (purpose : Purpose) (read : List Char) (lead? : Option Nat) (code : Nat) : Outcome :=
  if purpose.isSkipped then .ok (.text purpose read .plain)
  else match lead? with
    | some lead =>
      if isTrail code then
        let scalar := (lead - 0xD800) * 0x400 + (code - 0xDC00) + 0x10000
        .ok (.text purpose (Char.ofNat scalar :: read) .plain)
      else behind .loneSurrogate
    | none =>
      if isTrail code then behind .loneSurrogate
      else if isLead code then .ok (.text purpose read (.lead code))
      else .ok (.text purpose (Char.ofNat code :: read) .plain)

/-- One character inside a string. -/
def stepText (purpose : Purpose) (read : List Char) (c : Char) : TextState → Outcome
  | .plain =>
    if c == '\x22' then
      match afterScalar purpose (.string (String.ofList read.reverse)) with
      | .ok state => .ok state
      | .error cause => behind cause
    else if c == '\\' then .ok (.text purpose read .escape)
    else if c.toNat < 0x20 then
      if purpose.isSkipped then before .controlCharacter else behind .controlCharacter
    else .ok (.text purpose (c :: read) .plain)
  | .escape =>
    if c == 'u' then .ok (.text purpose read (.code none 0 0 true))
    else match escaped? c with
      | some e => .ok (.text purpose (e :: read) .plain)
      | none => behind .malformedEscape
  | .code lead? bytes value valid =>
    let digit? := Syntax.Lexer.hexValue? c
    let bytes' := bytes + c.utf8Size
    let value' := value * 16 + digit?.getD 0
    let valid' := valid && digit?.isSome
    if bytes' < 4 then .ok (.text purpose read (.code lead? bytes' value' valid'))
    else if valid' then endCode purpose read lead? value'
    else .error ⟨.malformedEscape, 4 - bytes⟩
  | .lead value =>
    if c == '\\' then .ok (.text purpose read (.leadEscape value))
    else behind .brokenSurrogatePair
  | .leadEscape value =>
    if c == 'u' then .ok (.text purpose read (.code (some value) 0 0 true))
    else behind .brokenSurrogatePair

/-- One character inside a word. -/
def stepWord (purpose : Purpose) (value : Found) (left : List Char) (c : Char) : Outcome :=
  match left with
  | [] => behind .misspelledWord
  | next :: rest =>
    if c != next then behind .misspelledWord
    else match rest with
      | [] =>
        match afterScalar purpose value with
        | .ok state => .ok state
        | .error cause => behind cause
      | rest => .ok (.word purpose value rest)

/-- One more character that belongs to a numeral; `none` where the numeral ends before it. -/
def stepNumber (purpose : Purpose) (n : Numeral) (c : Char) : NumberState → Option Outcome
  | .minus =>
    if c == '0' then some (.ok (.number purpose n .zero))
    else if c.isDigit then some (.ok (.number purpose (n.addWhole c) .whole))
    else some (behind .malformedNumber)
  | .zero =>
    if c.isDigit then some (behind .malformedNumber)
    else if c == '.' then some (.ok (.number purpose n.addPoint .point))
    else if c == 'e' || c == 'E' then some (.ok (.number purpose n.addMark .mark))
    else none
  | .whole =>
    if c.isDigit then some (.ok (.number purpose (n.addWhole c) .whole))
    else if c == '.' then some (.ok (.number purpose n.addPoint .point))
    else if c == 'e' || c == 'E' then some (.ok (.number purpose n.addMark .mark))
    else none
  | .point =>
    if c.isDigit then some (.ok (.number purpose (n.addFraction c) .fraction))
    else some (behind .malformedNumber)
  | .fraction =>
    if c.isDigit then some (.ok (.number purpose (n.addFraction c) .fraction))
    else if c == 'e' || c == 'E' then some (.ok (.number purpose n.addMark .mark))
    else none
  | .mark =>
    if c == '+' then some (.ok (.number purpose n .sign))
    else if c == '-' then some (.ok (.number purpose { n with exponentNegative := true } .sign))
    else if c.isDigit then some (.ok (.number purpose (n.addExponent c) .exponent))
    else some (behind .malformedNumber)
  | .sign =>
    if c.isDigit then some (.ok (.number purpose (n.addExponent c) .exponent))
    else some (behind .malformedNumber)
  | .exponent =>
    if c.isDigit then
      let n' := n.addExponent c
      if n'.exponentOverflows && !purpose.isSkipped then some (behind .numberOutOfRange)
      else some (.ok (.number purpose n' .exponent))
    else none

/-- One character outside of scalars that is no space. -/
def stepOutside (c : Char) : State → Outcome
  | .start =>
    if c == '\x7b' then .ok .memberFirst
    else if c == '[' then .ok .elementFirst
    else startValue (.wrong .options) c
  | .elementFirst => if c == ']' then .ok (.done []) else startExcludes .element c
  | .elementEnd entries =>
    if c == ']' then .ok (.done entries)
    else if c == ',' then .ok .elementComma
    else behind .trailingCharacters
  | .elementComma => if c == ']' then behind .trailingComma else behind .trailingCharacters
  | .memberFirst =>
    if c == '\x22' then .ok (.text (.key none) [] .plain)
    else if c == '\x7d' then .ok (.done [])
    else behind .keyNotString
  | .memberEnd progress =>
    if c == ',' then .ok (.memberNext progress)
    else if c == '\x7d' then .ok (.done (progress.getD []))
    else behind .noObjectSeparator
  | .memberNext progress =>
    if c == '\x22' then .ok (.text (.key progress) [] .plain)
    else if c == '\x7d' then behind .trailingComma
    else behind .keyNotString
  | .excludesColon => if c == ':' then .ok (.excludes .member) else behind .noColon
  | .repeated => if c == '\x7d' then behind .repeatedExcludes else before .repeatedExcludes
  | .unknownColon progress => if c == ':' then .ok (.skipValue progress []) else behind .noColon
  | .excludes home => startExcludes home c
  | .entryFirst home => if c == ']' then .ok (afterExcludes home []) else startEntry home [] c
  | .entryEnd home entries =>
    if c == ']' then .ok (afterExcludes home entries)
    else if c == ',' then .ok (.entryNext home entries)
    else behind .noListSeparator
  | .entryNext home entries =>
    if c == ']' then behind .trailingComma else startEntry home entries c
  | .skipValue progress brackets => startValue (.skipped progress brackets) c
  | .skipFirst progress .list outer =>
    if c == ']' then .ok (afterSkipped progress outer)
    else startValue (.skipped progress (.list :: outer)) c
  | .skipFirst progress .object outer =>
    if c == '\x7d' then .ok (afterSkipped progress outer)
    else if c == '\x22' then .ok (.text (.skippedKey progress (.object :: outer)) [] .plain)
    else behind .keyNotString
  | .skipEnd progress .list outer =>
    if c == ']' then .ok (afterSkipped progress outer)
    else if c == ',' then .ok (.skipValue progress (.list :: outer))
    else behind .noListSeparator
  | .skipEnd progress .object outer =>
    if c == '\x7d' then .ok (afterSkipped progress outer)
    else if c == ',' then .ok (.skipKey progress (.object :: outer))
    else behind .noObjectSeparator
  | .skipKey progress brackets =>
    if c == '\x22' then .ok (.text (.skippedKey progress brackets) [] .plain)
    else behind .keyNotString
  | .skipColon progress brackets =>
    if c == ':' then .ok (.skipValue progress brackets) else behind .noColon
  | .done _ => behind .trailingCharacters
  | state => .ok state

/-- One character outside of scalars: spaces change nothing. -/
def stepBetween (state : State) (c : Char) : Outcome :=
  if isSpace c then .ok state else stepOutside c state

/-- One character of an options text. -/
def step (state : State) (c : Char) : Outcome :=
  match state with
  | .text purpose read inner => stepText purpose read c inner
  | .word purpose value left => stepWord purpose value left c
  | .number purpose n inner =>
    match stepNumber purpose n c inner with
    | some outcome => outcome
    | none =>
      match afterScalar purpose (.number n) with
      | .ok state => stepBetween state c
      | .error cause => before cause
  | state => stepBetween state c

/-- What it means that the text ends inside a numeral. -/
def finishNumber (purpose : Purpose) (n : Numeral) : NumberState → Cause
  | .minus | .point | .mark | .sign =>
    if purpose.isSkipped then .malformedNumber else .endInValue
  | _ =>
    match afterScalar purpose (.number n) with
    | .ok (.skipEnd _ .list _) => .endInList
    | .ok _ => .endInObject
    | .error cause => cause

/-- What it means that the text ends here: the excludes, or a cause. -/
def finish : State → Except Cause (List String)
  | .done entries => .ok entries
  | .elementFirst | .elementEnd _ | .entryFirst _ | .entryEnd .. => .error .endInList
  | .elementComma => .error .trailingCharacters
  | .memberFirst | .memberEnd _ | .excludesColon | .unknownColon _ => .error .endInObject
  | .repeated => .error .repeatedExcludes
  | .start | .memberNext _ | .excludes _ | .entryNext .. | .skipValue .. => .error .endInValue
  | .skipFirst _ .list _ | .skipEnd _ .list _ => .error .endInList
  | .skipFirst _ .object _ | .skipEnd _ .object _ | .skipKey .. | .skipColon .. =>
    .error .endInObject
  | .text .. => .error .endInString
  | .word .. => .error .endInValue
  | .number purpose n inner => .error (finishNumber purpose n inner)

/-- The state behind a text that starts `offset` bytes from the beginning. -/
def run (state : State) (offset : Nat) : List Char → Except Fault State
  | [] => .ok state
  | c :: cs =>
    match step state c with
    | .ok next => run next (offset + c.utf8Size) cs
    | .error fault => .error ⟨fault.cause, offset + fault.offset⟩

/-- The excludes that a text gives, or the fault in it. -/
def read (text : List Char) : Except Fault (List String) :=
  match run .start 0 text with
  | .ok state =>
    match finish state with
    | .ok entries => .ok entries
    | .error cause => .error ⟨cause, Text.byteLength text⟩
  | .error fault => .error fault

end ProseLint.Options
