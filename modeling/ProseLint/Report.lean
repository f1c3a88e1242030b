import ProseLint.Issue
import ProseLint.Styled
import ProseLint.Text.Width

/-!
# Reports

A report shows each issue with its file and, where it has a place, the source line and a caret under
the column. Numbers and bars stand in a gutter as wide as the largest line number. A last line
counts the problems. A caret that lies too far right cannot be placed, and then nothing is printed.
-/

namespace ProseLint.Report

open ProseLint.Styled

/-- A text with blanks before it, up to a width. -/
def padLeft (width : Nat) (text : String) : String :=
  String.ofList (List.replicate (width - text.length) ' ') ++ text

/-- A word in the singular or plural. -/
def counted (n : Nat) (one many : String) : String := if n == 1 then one else many

/-- The width of the gutter: that of the largest line number. -/
def gutterWidth (issues : List Issue) : Nat :=
  match (issues.filterMap Issue.line?).max? with
  | some n => (toString n).length
  | none => 1

/-- The columns before the caret: those of as many characters as there are columns before it. -/
def caretPadding (place : SourcePlace) : Nat :=
  Text.Width.textColumns (place.sourceLine.toList.take (place.col - 1))

/-- The bar of the gutter. -/
def bar : Segment := styled .blue "|"

/-- The lines that show a place: the source line between empty gutters, and the caret. -/
def placeLines (gutter : Nat) (place : SourcePlace) : Styled :=
  [plain (padLeft gutter "" ++ " "), bar, plain "\n",
   styled .blue (padLeft gutter (toString place.line)), plain " ", bar,
   plain (" " ++ place.sourceLine ++ "\n"),
   plain (padLeft gutter "" ++ " "), bar, plain (" " ++ padLeft (caretPadding place) ""),
   styled .red "^", plain "\n"]

/-- The line and column of a place behind its file. -/
def placeSuffix : Option SourcePlace → String
  | some place => ":" ++ toString place.line ++ ":" ++ toString place.col
  | none => ""

/-- The lines of one issue. -/
def issueLines (gutter : Nat) (i : Issue) : Styled :=
  [styled .boldRed "error", plain (": \"" ++ i.message ++ "\"  "), styled .dimCyan i.rule.name,
   plain "\n  ", styled .blue "-->", plain (" " ++ i.file ++ placeSuffix i.place? ++ "\n")] ++
  (match i.place? with
    | some place => placeLines gutter place
    | none => []) ++
  (match i.details? with
    | some details =>
      [plain (padLeft gutter "" ++ " "), styled .blue "=", plain " ", styled .bold "note:",
       plain (" " ++ details ++ "\n")]
    | none => []) ++
  [plain "\n"]

/-- The line that counts the problems, if there are any. -/
def summary (total : Nat) : Styled :=
  if total == 0 then []
  else [plain "\n", styled .red "✘", plain (" " ++ toString total ++ " "),
        styled .red (counted total "problem" "problems"), plain "\n"]

/-- The report of some issues, in order. -/
def ofIssues (issues : List Issue) : Styled :=
  let ordered := Issue.sorted issues
  ordered.flatMap (issueLines (gutterWidth ordered)) ++ summary ordered.length

/-- The greatest width that text can be padded to. -/
def widthLimit : Nat := 65535

/-- Can the caret of the issue be placed, if it has one? -/
def fits (i : Issue) : Bool :=
  match i.place? with
  | some place => caretPadding place ≤ widthLimit
  | none => true

/-- The report of some issues, if all their carets can be placed. -/
def ofIssues? (issues : List Issue) : Option Styled :=
  if issues.all fits then some (ofIssues issues) else none

/-- The line that tells how many files have nothing wrong. -/
def success (files : Nat) : Styled :=
  [styled .green "✓", plain " ",
   styled .green ("Checked " ++ toString files ++ " source " ++ counted files "file" "files" ++
     " - no issues found")]

end ProseLint.Report
