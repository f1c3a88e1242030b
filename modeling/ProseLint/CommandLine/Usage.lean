import ProseLint.Styled

/-!
# Usage of the command line

The pages of help, the usage line of each page, and what is said of arguments that cannot be
understood. Arguments are named by their long form and the placeholder of their value.
-/

namespace ProseLint.CommandLine

open ProseLint.Styled

/-- The arguments that the command line knows. -/
inductive Argument where
  | paths
  | exclude
  | options
  | ignore
  | verbose
  | help
  | version
deriving Repr, DecidableEq, Inhabited

namespace Argument

/-- The long form without its dashes; positional arguments have none. -/
def long? : Argument → Option String
  | paths => none
  | exclude => some "exclude"
  | options => some "options"
  | ignore => some "ignore"
  | verbose => some "verbose"
  | help => some "help"
  | version => some "version"

/-- The placeholder of the value, for options that take one. -/
def placeholder? : Argument → Option String
  | exclude => some "CALL"
  | options => some "JSON"
  | ignore => some "GLOB"
  | paths | verbose | help | version => none

/-- The argument as it is named where it is used. -/
def segments (a : Argument) : Styled :=
  (match a.long? with
    | some long => [styled .bold ("--" ++ long)]
    | none => [plain "<PATH>..."]) ++
  (match a.placeholder? with
    | some name => [plain (" <" ++ name ++ ">")]
    | none => [])

/-- The name of the argument in messages. -/
def label (a : Argument) : String := render false a.segments

end Argument

/-- The pages of help: one for the program and one for each command. -/
inductive Page where
  | main
  | check
  | help
deriving Repr, DecidableEq, Inhabited

namespace Page

/-- The words that a command line of the page starts with. -/
def command : Page → String
  | main => "no-en"
  | check => "no-en check"
  | help => "no-en help"

/-- What may follow those words. -/
def synopsis : Page → String
  | main => " [COMMAND]"
  | check => " [OPTIONS] [PATH]..."
  | help => " [COMMAND]..."

/-- The usage line of the page, with the arguments that are used if there are any. -/
def usage (page : Page) (used : List Argument) : Styled :=
  [styled .heading "Usage:", plain " ", styled .bold page.command] ++
  if used.isEmpty then [plain page.synopsis]
  else
    (used.eraseDups.filter (· != .paths)).flatMap (fun a => plain " " :: a.segments) ++
    if page == .check then
      [plain (if used.contains .paths then " <PATH>..." else " [PATH]...")]
    else []

/-- The text of the page; `excludes` is the value of the environment variable for excludes. -/
def text (excludes : String) : Page → Styled
  | main =>
    [plain ("A lint rule that flags hardcoded English text in JavaScript and TypeScript string " ++
       "literals\n\n")] ++
    usage .main [] ++
    [plain "\n\n", styled .heading "Commands:", plain "\n  ", styled .bold "check",
     plain "  Check JS/TS files for hardcoded English text in string literals\n  ",
     styled .bold "help",
     plain "   Print this message or the help of the given subcommand(s)\n\n",
     styled .heading "Options:", plain "\n  ", styled .bold "-h", plain ", ",
     styled .bold "--help", plain "     Print help\n  ", styled .bold "-V", plain ", ",
     styled .bold "--version", plain "  Print version\n"]
  | check =>
    [plain "Check JS/TS files for hardcoded English text in string literals\n\n"] ++
    usage .check [] ++
    [plain "\n\n", styled .heading "Arguments:",
     plain "\n  [PATH]...  Files or directories to check [default: .]\n\n",
     styled .heading "Options:", plain "\n      ", styled .bold "--exclude",
     plain (" <CALL>  Call to leave alone: a bare name (`logger`) or a dotted path " ++
       "(`Sentry.captureMessage`) Can be specified multiple times: --exclude t --exclude " ++
       "Sentry.captureMessage [env: NO_EN_EXCLUDES=" ++ excludes ++ "]\n      "),
     styled .bold "--options",
     plain (" <JSON>  Rule options as a JSON object, e.g. " ++
       "'\x7b\"excludes\": [\"t\"]\x7d'\n      "),
     styled .bold "--ignore",
     plain " <GLOB>   Glob pattern for paths to skip (can be specified multiple times)\n  ",
     styled .bold "-v", plain ", ", styled .bold "--verbose",
     plain "         Enable verbose output\n  ",
     styled .bold "-h", plain ", ", styled .bold "--help", plain "            Print help\n"]
  | help =>
    [plain "Print this message or the help of the given subcommand(s)\n\n"] ++
    usage .help [] ++
    [plain "\n\n", styled .heading "Arguments:",
     plain "\n  [COMMAND]...  Print help for the subcommand(s)\n"]

end Page

/-- The program and its version. -/
def versionText : String := "no-en 0.1.0\n"

/-- What may have been meant by an argument that is not known. -/
inductive Tip where
  | similarArgument (a : Argument)
  | argumentOf (command : String) (a : Argument)
  | passAsValue (text : String)
  | needlessDashes (command : String)
deriving Repr, DecidableEq, Inhabited

namespace Tip

/-- The words for a tip. -/
def segments : Tip → Styled
  | similarArgument a =>
    [plain "a similar argument exists: '", styled .green ("--" ++ a.long?.getD ""), plain "'"]
  | argumentOf command a =>
    [plain "'", styled .green (command ++ " --" ++ a.long?.getD ""), plain "' exists"]
  | passAsValue text =>
    [plain "to pass '", styled .yellow text, plain "' as a value, use '",
     styled .green ("-- " ++ text), plain "'"]
  | needlessDashes command =>
    [plain "subcommand '", styled .green command, plain "' exists; to use it, remove the '",
     styled .yellow "--", plain "' before it"]

end Tip

/-- Why a command line gives nothing to run. -/
inductive Refusal where
  /-- A page of help was asked for. -/
  | help (page : Page)
  /-- The version was asked for. -/
  | version
  | repeated (a : Argument)
  | missingValue (a : Argument)
  | unexpectedValue (page : Page) (value : String) (a : Argument) (used : List Argument)
  | unknownArgument (page : Page) (text : String) (tip? : Option Tip) (used : List Argument)
  | unknownCommand (page : Page) (text : String) (similar : List String)
deriving Repr, DecidableEq, Inhabited

namespace Refusal

/-- Was something to be shown asked for, so that nothing is wrong? -/
def isRequest : Refusal → Bool
  | help _ | version => true
  | _ => false

/-- The line that a tip takes. -/
def tipLine (tip : Styled) : Styled := [plain "\n\n  ", styled .green "tip:", plain " "] ++ tip

/-- The words for commands that are similar to one that is not known. -/
def similarCommands (names : List String) : Styled :=
  plain (if names.length == 1 then "a similar subcommand exists: "
    else "some similar subcommands exist: ") ::
  ((names.map fun n => [plain "'", styled .green n, plain "'"]).intersperse [plain ", "]).flatten

/-- The usage line of a page as a paragraph. -/
def usageParagraph (page : Page) (used : List Argument) : Styled :=
  plain "\n\n" :: page.usage used

/-- The words for what is wrong, with tips and usage. -/
def complaint : Refusal → Styled
  | repeated a =>
    [plain "the argument '", styled .yellow a.label, plain "' cannot be used multiple times"] ++
    usageParagraph .check []
  | missingValue a =>
    [plain "a value is required for '", styled .yellow a.label,
     plain "' but none was supplied"]
  | unexpectedValue page value a used =>
    [plain "unexpected value '", styled .yellow value, plain "' for '", styled .bold a.label,
     plain "' found; no more were expected"] ++ usageParagraph page used
  | unknownArgument page text tip? used =>
    [plain "unexpected argument '", styled .yellow text, plain "' found"] ++
    (match tip? with
      | some tip => tipLine tip.segments
      | none => []) ++
    usageParagraph page used
  | unknownCommand page text similar =>
    [plain "unrecognized subcommand '", styled .yellow text, plain "'"] ++
    (if similar.isEmpty then [] else tipLine (similarCommands similar)) ++
    usageParagraph page []
  | help _ | version => []

/-- Where more can be read; the page on help has no further help. -/
def closing : Refusal → Styled
  | unknownCommand .help _ _ => [plain "\n"]
  | _ => [plain "\n\nFor more information, try '", styled .bold "--help", plain "'.\n"]

/-- What is shown in place of a run. -/
def message (excludes : String) : Refusal → Styled
  | help page => page.text excludes
  | version => [plain versionText]
  | refusal => [styled .failure "error:", plain " "] ++ refusal.complaint ++ refusal.closing

end Refusal

end ProseLint.CommandLine
