import ProseLint.Violation

/-!
# Issues

What is wrong with the checked files: English text at a place, or a file that could not be read or
parsed. Issues are ordered by file, line, column, rule and message, where an issue without a place
counts as line and column zero.
-/

namespace ProseLint

/-- A place in a file with the source line around it. -/
structure SourcePlace where
  file : String
  line : Nat
  col : Nat
  sourceLine : String
deriving Repr, DecidableEq, Inhabited

/-- Something wrong with a checked file. -/
inductive Issue where
  | english (place : SourcePlace) (text : String) (position : Position)
  | unparsed (file : String) (error : String)
deriving Repr, DecidableEq, Inhabited

/-- The rules that issues come from, in the order in which they are reported. -/
inductive Rule where
  | english
  | parseError
deriving Repr, DecidableEq, Inhabited

namespace Rule

/-- The name of a rule in reports. -/
def name : Rule → String
  | english => "no-en"
  | parseError => "parse-error"

/-- The place of a rule in the order of rules. -/
def rank : Rule → Nat
  | english => 0
  | parseError => 1

end Rule

namespace Issue

/-- The file that the issue is in. -/
def file : Issue → String
  | english place _ _ => place.file
  | unparsed file _ => file

/-- The place that the issue points at. -/
def place? : Issue → Option SourcePlace
  | english place _ _ => some place
  | unparsed _ _ => none

/-- The line of the issue. -/
def line? (i : Issue) : Option Nat := i.place?.map SourcePlace.line

/-- The column of the issue. -/
def col? (i : Issue) : Option Nat := i.place?.map SourcePlace.col

/-- The rule that the issue comes from. -/
def rule : Issue → Rule
  | english .. => .english
  | unparsed .. => .parseError

/-- The text of the issue: what was found, or why the file could not be checked. -/
def message : Issue → String
  | english _ text _ => text
  | unparsed _ error => error

/-- What the rule says about the issue. -/
def details? : Issue → Option String
  | english _ _ position => some (ruleMessage ++ " (in " ++ position.describe ++ ")")
  | unparsed _ _ => none

/-- Does the issue say that a file could not be checked? -/
def isUnparsed : Issue → Bool
  | unparsed .. => true
  | english .. => false

/-- The order of issues in reports. -/
def cmp (a b : Issue) : Ordering :=
  (compare a.file b.file).then <|
  (compare (a.line?.getD 0) (b.line?.getD 0)).then <|
  (compare (a.col?.getD 0) (b.col?.getD 0)).then <|
  (compare a.rule.rank b.rule.rank).then <|
  compare a.message b.message

/-- Does the first issue come no later than the second? -/
def le (a b : Issue) : Bool := (cmp a b).isLE

/-- Issues in the order of reports; issues that tie keep their order. -/
def sorted (issues : List Issue) : List Issue := issues.mergeSort le

end Issue

end ProseLint
