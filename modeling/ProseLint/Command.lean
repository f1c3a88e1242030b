import ProseLint.Check
import ProseLint.CommandLine.Arguments
import ProseLint.FileSystem
import ProseLint.Options
import ProseLint.Report
import ProseLint.Scan

/-!
# Commands

A run of the program from its command line to what it writes and how it ends. Checking looks at the
file system only through two functions: what is seen from a path, and what is read there.
-/

namespace ProseLint

open ProseLint.Styled

/-- What a run writes and how it ends. -/
structure Outcome where
  status : ExitStatus
  out : Styled
  err : Styled
deriving Repr, DecidableEq, Inhabited

namespace Outcome

/-- A line that warns. -/
def warning (text : Styled) : Styled :=
  styled .boldYellow "warning:" :: plain " " :: text ++ [plain "\n"]

/-- A line that tells which calls are left alone. -/
def exclusionNote (excludes : List String) : Styled :=
  [styled .bold "note:", plain (" excluding calls matching " ++ ", ".intercalate excludes ++ "\n")]

/-- The line that counts the paths that were skipped. -/
def skipWarning (verbose : Bool) (skipped : Nat) : Styled :=
  if skipped == 0 then []
  else warning [plain (toString skipped ++ " path(s) skipped due to access errors" ++
    if verbose then "" else " (use -v for details)")]

/-- The line about a file that could not be read or parsed. -/
def failureWarning (i : Issue) : Styled := warning [plain (i.file ++ " - " ++ i.message)]

/-- The line that counts the files that could not be read or parsed. -/
def parseWarning (count : Nat) : Styled :=
  if count == 0 then []
  else warning [plain (toString count ++ " file(s) could not be parsed (use "), styled .cyan "-v",
    plain " for details)"]

/-- What is written on the way to the report: about the excludes, the scan and, in detail, the files
that could not be read or parsed. -/
def remarks (verbose : Bool) (options : Options) (scan : Scan) (result : CheckResult) : Styled :=
  (if verbose && !options.excludes.isEmpty then exclusionNote options.excludes else []) ++
  (if verbose then scan.warnings.flatMap fun w => warning [plain w.describe] else []) ++
  skipWarning verbose scan.skipped ++
  (if verbose then result.failures.flatMap failureWarning else [])

/-- What a result is shown as: a line if there are no issues, else their report if it can be
printed. -/
def shown? (result : CheckResult) : Option Styled :=
  if result.issues.isEmpty then some (Report.success result.filesChecked ++ [plain "\n"])
  else Report.ofIssues? result.issues

/-- What is written about a scan and the result of checking its files. -/
def ofResult (verbose : Bool) (options : Options) (scan : Scan) (result : CheckResult) : Outcome :=
  match shown? result with
  | some out =>
    { status := result.status, out
      err := remarks verbose options scan result ++
        if verbose then [] else parseWarning result.parseErrors }
  | none =>
    { status := .aborted, out := []
      err := remarks verbose options scan result ++
        [plain "Formatting argument out of range\n"] }

/-- A run that cannot be done. -/
def failed (message : String) : Outcome :=
  { status := .error, out := [], err := [plain ("Error: " ++ message ++ "\n")] }

end Outcome

namespace CommandLine.Arguments

/-- The options of a check: those of the options text, then the excludes. -/
def options (a : Arguments) : Except String Options :=
  match a.options? with
  | none => .ok (Options.withExcludes {} a.excludes)
  | some text =>
    match Options.ofText text with
    | .ok o => .ok (o.withExcludes a.excludes)
    | .error fault => .error (fault.message text.toList)

/-- The scan that a check starts with. -/
def scan (a : Arguments) (look : String → Option FileTree) : Scan :=
  Scan.ofRoots a.ignores (a.paths.map fun path => ⟨path, look path⟩)

/-- A check of the files below the paths. -/
def check (a : Arguments) (look : String → Option FileTree)
    (read : String → Except FileError String) : Outcome :=
  match a.options with
  | .error message => .failed message
  | .ok options =>
    let scan := a.scan look
    let sources := scan.files.map fun path => ⟨path, read path⟩
    .ofResult a.verbose options scan (CheckResult.ofSources options.exemptions sources)

end CommandLine.Arguments

/-- The texts that a run writes and the code that it ends with. -/
structure Output where
  exit : Nat
  stdout : String
  stderr : String
deriving Repr, DecidableEq, Inhabited

namespace Output

/-- What is written by a run, with or without styles. -/
def ofOutcome (color : Bool) (o : Outcome) : Output :=
  ⟨o.status.code, o.out.render color, o.err.render color⟩

/-- What is written in place of a run. -/
def ofRefusal (env : CommandLine.Environment) (r : CommandLine.Refusal) : Output :=
  let text := (r.message (env.excludes?.getD "")).render env.usageColor
  if r.isRequest then ⟨0, text, ""⟩ else ⟨2, "", text⟩

end Output

/-- A run of the program in a file system. Without a command it shows its help. -/
def run (env : CommandLine.Environment) (words : List String) (fs : FileSystem) : Output :=
  match CommandLine.parse env words with
  | .error refusal => .ofRefusal env refusal
  | .ok none => .ofRefusal env (.help .main)
  | .ok (some arguments) => .ofOutcome env.color (arguments.check fs.tree? fs.read)

end ProseLint
