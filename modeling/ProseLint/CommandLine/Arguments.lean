import ProseLint.CommandLine.Similarity
import ProseLint.CommandLine.Usage
import ProseLint.Text.Pieces

/-!
# Arguments of the command line

The words of a command line are read from left to right. Words without a dash are paths or the
values of options before them; behind two dashes all words are paths. What was read last may still
be pending: an option waits for its value, and values are taken over when the next argument
starts, so that a complaint about an unknown argument comes before one about the option before it.
-/

namespace ProseLint.CommandLine

/-- The environment variables that a run looks at. -/
structure Environment where
  /-- Excludes, unless some are given as arguments. -/
  excludes? : Option String := none
  /-- Asks for styles, unless it is zero. -/
  forceColor? : Option String := none
  /-- Asks for messages on usage without styles, unless it is empty. -/
  noColor? : Option String := none
deriving Repr, DecidableEq, Inhabited

namespace Environment

/-- Are reports and warnings styled? -/
def color (env : Environment) : Bool :=
  match env.forceColor? with
  | some value => value != "0"
  | none => false

/-- Are help and complaints about the command line styled? -/
def usageColor (env : Environment) : Bool := env.color && env.noColor?.getD "" == ""

end Environment

/-- What to check and how. -/
structure Arguments where
  paths : List String := []
  excludes : List String := []
  options? : Option String := none
  ignores : List String := []
  verbose : Bool := false
deriving Repr, DecidableEq, Inhabited

/-- The options that take a value. -/
inductive Valued where
  | exclude
  | options
  | ignore
deriving Repr, DecidableEq, Inhabited

namespace Valued

/-- The argument that an option is. -/
def argument : Valued → Argument
  | exclude => .exclude
  | options => .options
  | ignore => .ignore

end Valued

/-- What was read last and is not taken over yet. -/
inductive Pending where
  | nothing
  | paths (values : List String)
  /-- An option and, once it is read, its value. -/
  | option (o : Valued) (value? : Option String)
deriving Repr, DecidableEq, Inhabited

/-- What has been read of the arguments of a check. -/
structure Progress where
  arguments : Arguments := {}
  /-- The arguments taken over, in the order of their first use. -/
  used : List Argument := []
  pending : Pending := .nothing
deriving Repr, DecidableEq, Inhabited

namespace Progress

/-- Notes that an argument is used. -/
def use (p : Progress) (a : Argument) : Progress :=
  if p.used.contains a then p else { p with used := p.used ++ [a] }

/-- Takes over the value of an option. The options text can be given only once. -/
def setOption (p : Progress) (o : Valued) (value : String) : Except Refusal Progress :=
  let a := p.arguments
  match o with
  | .exclude =>
    let excludes := a.excludes ++ Text.stringPieces ',' value
    .ok ({ p with arguments := { a with excludes } }.use .exclude)
  | .ignore =>
    .ok ({ p with arguments := { a with ignores := a.ignores ++ [value] } }.use .ignore)
  | .options =>
    if a.options?.isSome then .error (.repeated .options)
    else .ok ({ p with arguments := { a with options? := some value } }.use .options)

/-- Takes over what is pending. -/
def settle (p : Progress) : Except Refusal Progress :=
  let cleared := { p with pending := .nothing }
  match p.pending with
  | .nothing => .ok cleared
  | .paths values =>
    let a := p.arguments
    .ok ({ cleared with arguments := { a with paths := a.paths ++ values } }.use .paths)
  | .option o (some value) => cleared.setOption o value
  | .option o none => .error (.missingValue o.argument)

/-- The arguments in use when an unknown one follows: those taken over and what is pending, except
an option that cannot be taken over. -/
def usedBefore (p : Progress) : List Argument :=
  match p.settle with
  | .ok settled => settled.used
  | .error (.repeated a) => p.used.erase a
  | .error _ => p.used

/-- A path. -/
def addPath (p : Progress) (path : String) : Except Refusal Progress :=
  match p.pending with
  | .paths values => .ok { p with pending := .paths (values ++ [path]) }
  | _ => do return { ← p.settle with pending := .paths [path] }

/-- The switch for more output, which can be given only once. -/
def setVerbose (p : Progress) : Except Refusal Progress := do
  let p ← p.settle
  if p.arguments.verbose then .error (.repeated .verbose)
  else return { p with arguments := { p.arguments with verbose := true } }.use .verbose

/-- An option with its value behind an equals sign, or one whose value is still to come. -/
def addOption (p : Progress) (o : Valued) (value? : Option String) : Except Refusal Progress := do
  let p ← p.settle
  match value? with
  | some value => p.setOption o value
  | none => return { p with pending := .option o none }

/-- A switch with a value, which it does not take. -/
def refuseValue (p : Progress) (a : Argument) (value : String) : Except Refusal Progress :=
  .error (.unexpectedValue .check value a (p.used ++ [a]))

/-- The arguments of a check that have a long form. -/
def known : List Argument := [.exclude, .options, .ignore, .verbose, .help]

/-- A long argument that is not known. -/
def refuseLong (p : Progress) (name : String) : Except Refusal Progress :=
  let text := "--" ++ name
  match (Similarity.similar name (known.filterMap Argument.long?)).getLast? with
  | some similar =>
    match known.find? fun a => a.long? == some similar with
    | some a =>
      .error (.unknownArgument .check text (some (.similarArgument a)) (p.usedBefore ++ [a]))
    | none => .error (.unknownArgument .check text none p.usedBefore)
  | none => .error (.unknownArgument .check text (some (.passAsValue text)) p.usedBefore)

/-- A long argument, with a value if an equals sign follows its name. -/
def addLong (p : Progress) (name : String) (value? : Option String) : Except Refusal Progress :=
  match name, value? with
  | "exclude", value? => p.addOption .exclude value?
  | "options", value? => p.addOption .options value?
  | "ignore", value? => p.addOption .ignore value?
  | "verbose", none => p.setVerbose
  | "verbose", some value => p.refuseValue .verbose value
  | "help", none => do
    let _ ← p.settle
    .error (.help .check)
  | "help", some value => p.refuseValue .help value
  | name, _ => p.refuseLong name

/-- Short arguments behind one dash. -/
def addShorts (p : Progress) : List Char → Except Refusal Progress
  | [] => .ok p
  | 'v' :: rest => do (← p.setVerbose).addShorts rest
  | 'h' :: _ => do
    let _ ← p.settle
    .error (.help .check)
  | c :: _ =>
    let text := String.ofList ['-', c]
    .error (.unknownArgument .check text (some (.passAsValue text)) [])

/-- A word that is no argument by itself: the value that an option waits for, or a path. -/
def addWord (p : Progress) (word : String) : Except Refusal Progress :=
  match p.pending with
  | .option o none => .ok { p with pending := .option o (some word) }
  | _ => p.addPath word

end Progress

/-- A word of the command line by its dashes. -/
inductive Word where
  /-- Two dashes alone. -/
  | dashes
  | long (name : String) (value? : Option String)
  | shorts (names : List Char)
  | plain
deriving Repr, DecidableEq, Inhabited

namespace Word

/-- A long argument is split at its first equals sign. -/
def ofLong (cs : List Char) : Word :=
  let name := String.ofList (cs.takeWhile (· != '='))
  match cs.dropWhile (· != '=') with
  | [] => .long name none
  | _ :: value => .long name (some (String.ofList value))

/-- The kind of a word; a dash alone is a plain one. -/
def ofString (word : String) : Word :=
  match word.toList with
  | ['-', '-'] => .dashes
  | '-' :: '-' :: cs => ofLong cs
  | '-' :: c :: cs => .shorts (c :: cs)
  | _ => .plain

end Word

namespace Progress

/-- The words of a check. -/
def addWords (p : Progress) : List String → Except Refusal Progress
  | [] => p.settle
  | word :: words =>
    match Word.ofString word with
    | .dashes => do (← words.foldlM addPath p).settle
    | .long name value? => do (← p.addLong name value?).addWords words
    | .shorts names => do (← p.addShorts names).addWords words
    | .plain => do (← p.addWord word).addWords words

/-- The arguments with the values of those that were not given: the working directory, and the
excludes of the environment. -/
def complete (env : Environment) (p : Progress) : Arguments :=
  let a := p.arguments
  { a with
    paths := if a.paths.isEmpty then ["."] else a.paths
    excludes :=
      if p.used.contains .exclude then a.excludes
      else match env.excludes? with
        | some value => Text.stringPieces ',' value
        | none => [] }

end Progress

/-- The arguments of a check. -/
def parseCheck (env : Environment) (words : List String) : Except Refusal Arguments :=
  (Progress.addWords {} words).map (Progress.complete env)

/-- The page of help that words lead to from a page. -/
def helpPage (page : Page) : List String → Refusal
  | [] => .help page
  | word :: words =>
    match page, word with
    | .main, "check" => helpPage .check words
    | .main, "help" => helpPage .help words
    | page, word => .unknownCommand page word []

/-- The names of the commands. -/
def commands : List String := ["check", "help"]

/-- A word where a command should be. -/
def refuseCommand (word : String) : Refusal :=
  .unknownCommand .main word (Similarity.similar word commands)

/-- A long argument of the program that is not known, before these words: it may belong to a command
among them. -/
def refuseMainLong (name : String) (words : List String) : Refusal :=
  let text := "--" ++ name
  let best? (known : List Argument) : Option Argument :=
    ((Similarity.similar name (known.filterMap Argument.long?)).getLast?).bind fun similar =>
      known.find? fun a => a.long? == some similar
  match best? [.help, .version] with
  | some a => .unknownArgument .main text (some (.similarArgument a)) [a]
  | none =>
    match best? Progress.known with
    | some a =>
      let tip? := if words.contains "check" then some (.argumentOf "check" a) else none
      .unknownArgument .main text tip? []
    | none => .unknownArgument .main text none []

/-- What a command line asks for, the name of the program apart: a check, or nothing. -/
def parse (env : Environment) : List String → Except Refusal (Option Arguments)
  | [] => .ok none
  | "check" :: words => (parseCheck env words).map some
  | "help" :: words => .error (helpPage .main words)
  | word :: words =>
    match Word.ofString word with
    | .dashes =>
      match words with
      | [] => .ok none
      | next :: _ =>
        if commands.contains next then
          .error (.unknownArgument .main next (some (.needlessDashes next)) [])
        else .error (refuseCommand next)
    | .long "help" none => .error (.help .main)
    | .long "version" none => .error .version
    | .long "help" (some value) => .error (.unexpectedValue .main value .help [.help])
    | .long "version" (some value) => .error (.unexpectedValue .main value .version [.version])
    | .long name _ => .error (refuseMainLong name words)
    | .shorts ('h' :: _) => .error (.help .main)
    | .shorts ('V' :: _) => .error .version
    | .shorts names =>
      .error (.unknownArgument .main (String.ofList ('-' :: names.take 1)) none [])
    | .plain => .error (refuseCommand word)

end ProseLint.CommandLine
