import ProseLint.FileTree
import ProseLint.Glob
import ProseLint.Path

/-!
# Scans

A scan collects the source files below some roots. Files that an ignore pattern matches are left
out; a root that does not exist and a directory that cannot be opened are skipped with a warning,
and an invalid pattern has no effect but a warning.
-/

namespace ProseLint

/-- A path where a scan starts, and what is there; `none` if nothing is. -/
structure Root where
  path : String
  tree? : Option FileTree
deriving Repr, Inhabited

/-- Something that a scan could not take into account. -/
inductive ScanWarning where
  | invalidPattern (pattern : String) (error : Glob.SyntaxError)
  | missingRoot (path : String)
  | closedDirectory (path : String) (error : FileError)
deriving Repr, DecidableEq, Inhabited

namespace ScanWarning

/-- The words for a warning. -/
def describe : ScanWarning → String
  | invalidPattern pattern error =>
    "Invalid ignore pattern '" ++ pattern ++ "': " ++ error.describe
  | missingRoot path => "Path does not exist: " ++ path
  | closedDirectory path error =>
    "Cannot access path: IO error for operation on " ++ path ++ ": " ++ error.describe

/-- Does the warning say that a path was skipped? -/
def isSkip : ScanWarning → Bool
  | invalidPattern .. => false
  | missingRoot _ | closedDirectory .. => true

end ScanWarning

/-- What a scan found. -/
structure Scan where
  /-- The source files, in ascending order and each once. -/
  files : List String
  warnings : List ScanWarning
deriving Repr, DecidableEq, Inhabited

namespace Scan

/-- The number of paths that were skipped. -/
def skipped (s : Scan) : Nat := s.warnings.countP ScanWarning.isSkip

/-- The valid ones of some patterns. -/
def validGlobs (patterns : List String) : List Glob :=
  patterns.filterMap fun p => (Glob.ofString p).toOption

/-- The warning that an ignore pattern gives. -/
def patternWarning? (pattern : String) : Option ScanWarning :=
  match Glob.ofString pattern with
  | .ok _ => none
  | .error e => some (.invalidPattern pattern e)

/-- The visits of the walk from a root; a root where nothing is gives none. -/
def visits (root : Root) : List FileTree.Visit :=
  match root.tree? with
  | some tree => tree.walk root.path
  | none => []

/-- The source file that a visit comes by, unless it is ignored. -/
def sourceFile? (ignores : List Glob) : FileTree.Visit → Option String
  | .file path =>
    if Path.isSource path && !ignores.any fun g => g.covers path then some path else none
  | .closed .. => none

/-- The warning that a visit gives. -/
def visitWarning? : FileTree.Visit → Option ScanWarning
  | .file _ => none
  | .closed path error => some (.closedDirectory path error)

/-- The warnings that a root gives. -/
def rootWarnings (root : Root) : List ScanWarning :=
  match root.tree? with
  | some _ => (visits root).filterMap visitWarning?
  | none => [.missingRoot root.path]

/-- Paths in ascending order, each once. -/
def ascending (paths : List String) : List String :=
  (paths.mergeSort fun a b => (compare a b).isLE).eraseReps

/-- The scan from some roots without the files that a pattern ignores. -/
def ofRoots (ignores : List String) (roots : List Root) : Scan where
  files := ascending <|
    roots.flatMap fun r => (visits r).filterMap (sourceFile? (validGlobs ignores))
  warnings := ignores.filterMap patternWarning? ++ roots.flatMap rootWarnings

end Scan

end ProseLint
