import ProseLint.FileTree
import ProseLint.Issue
import ProseLint.Location
import ProseLint.Path
import ProseLint.Syntax.Program

/-!
# Checking sources

A source text gives its violations as issues with their places, or one issue that says that it
could not be parsed. A file that cannot be read gives one issue as well, so that each file is
either checked or named in exactly one such issue.
-/

namespace ProseLint

open ProseLint.Syntax (Program.parse Program.withoutMark)

/-- Why a file could not be checked, in words. -/
def parseErrorText (file : String) : String := "Failed to parse " ++ file ++ ": [SYNTAX ERROR]"

/-- The issue that a violation in a text is. -/
def issueOf (file : String) (text : List Char) (v : Violation) : Issue :=
  let location := Location.ofOffset text v.span.lo
  .english ⟨file, location.line, location.col, String.ofList location.sourceLine⟩ v.text v.position

/-- The issues of a source text, in the order in which it is visited. -/
def checkSource (exemptions : Exemptions) (file : String) (source : List Char) : List Issue :=
  match Program.parse (Path.dialect file) source with
  | .ok program =>
    (violations exemptions program).map (issueOf file (Program.withoutMark source))
  | .error _ => [.unparsed file (parseErrorText file)]

/-- A file to check: its path, and its text or why it cannot be read. -/
structure Source where
  path : String
  content : Except FileError String

/-- Why a file could not be read, in words. -/
def readErrorText (file : String) (error : FileError) : String :=
  "Failed to read file: " ++ file ++ ": " ++ error.describe

/-- The issues of a file, in the order in which it is visited. -/
def checkFile (exemptions : Exemptions) (source : Source) : List Issue :=
  match source.content with
  | .ok text => checkSource exemptions source.path text.toList
  | .error e => [.unparsed source.path (readErrorText source.path e)]

/-- How a run ends. -/
inductive ExitStatus where
  /-- Nothing is wrong. -/
  | success
  /-- There are issues. -/
  | failure
  /-- The run itself could not be done. -/
  | error
  /-- The run broke off while it wrote its report. -/
  | aborted
deriving Repr, DecidableEq, Inhabited

namespace ExitStatus

/-- The code that the process ends with. -/
def code : ExitStatus → Nat
  | success => 0
  | failure => 1
  | error => 2
  | aborted => 101

end ExitStatus

/-- What checking some files gave. -/
structure CheckResult where
  /-- The issues of each file, in the order of the files. -/
  perFile : List (List Issue)

namespace CheckResult

/-- The issues of some files, each file by itself. -/
def ofSources (exemptions : Exemptions) (sources : List Source) : CheckResult :=
  ⟨sources.map (checkFile exemptions)⟩

/-- All issues in the order of reports. -/
def issues (r : CheckResult) : List Issue := Issue.sorted r.perFile.flatten

/-- The number of files that were read and parsed. -/
def filesChecked (r : CheckResult) : Nat :=
  r.perFile.countP fun issues => !issues.any Issue.isUnparsed

/-- The issues that say that a file could not be read or parsed, in the order of the files. -/
def failures (r : CheckResult) : List Issue := r.perFile.flatten.filter Issue.isUnparsed

/-- The number of files that could not be read or parsed. -/
def parseErrors (r : CheckResult) : Nat := r.perFile.flatten.countP Issue.isUnparsed

/-- How a run with this result ends. -/
def status (r : CheckResult) : ExitStatus :=
  if r.perFile.flatten.isEmpty then .success else .failure

end CheckResult

end ProseLint
