import ProseLint.Syntax.Dialect
import ProseLint.Text.Pieces

/-!
# Paths

A path is a text with slashes between the names of directories. Its extension decides whether it
names a source file and in which dialect the file is read.
-/

namespace ProseLint.Path

open ProseLint.Syntax (Dialect)

/-- The names along a path; empty pieces and single dots name nothing. -/
def names (path : String) : List String :=
  (Text.stringPieces '/' path).filter fun n => n != "" && n != "."

/-- The last name of a path, unless it leads upwards. -/
def fileName? (path : String) : Option String :=
  match (names path).getLast? with
  | some n => if n == ".." then none else some n
  | none => none

/-- The part of a name behind its last dot; a dot at its head counts for none. -/
def extensionOf? (name : String) : Option String :=
  let reversed := name.toList.reverse
  let ending := reversed.takeWhile (· != '.')
  match reversed.dropWhile (· != '.') with
  | _ :: _ :: _ => some (String.ofList ending.reverse)
  | _ => none

/-- The extension of the file that a path names. -/
def extension? (path : String) : Option String :=
  (fileName? path).bind extensionOf?

/-- The extensions of source files. -/
def sourceExtensions : List String := ["js", "jsx", "mjs", "cjs", "ts", "tsx", "mts", "cts"]

/-- Does the path name a source file? -/
def isSource (path : String) : Bool :=
  match extension? path with
  | some e => sourceExtensions.contains e
  | none => false

/-- The dialect of the file that a path names. -/
def dialect (path : String) : Dialect :=
  match extension? path with
  | some e =>
    if ["ts", "mts", "cts"].contains e then .typed
    else if e == "tsx" then .typedMarkup
    else .untyped
  | none => .untyped

end ProseLint.Path
