/-!
# File trees

What can be seen of the files below a path: regular files, links and other things that are not
followed, directories with their entries, and directories that cannot be opened.
-/

namespace ProseLint

/-- Why an operation on a path fails. -/
inductive FileError where
  | notFound
  | permissionDenied
  | notDirectory
  | isDirectory
  | nameTooLong
  | tooManyLinks
  | nulInName
  | notText
  /-- Any other error of the operating system. -/
  | other (code : Nat) (text : String)
deriving Repr, DecidableEq, Inhabited

namespace FileError

/-- The words for an error. -/
def describe : FileError → String
  | notFound => "No such file or directory (os error 2)"
  | permissionDenied => "Permission denied (os error 13)"
  | notDirectory => "Not a directory (os error 20)"
  | isDirectory => "Is a directory (os error 21)"
  | nameTooLong => "File name too long (os error 36)"
  | tooManyLinks => "Too many levels of symbolic links (os error 40)"
  | nulInName => "file name contained an unexpected NUL byte"
  | notText => "stream did not contain valid UTF-8"
  | other code text => text ++ " (os error " ++ toString code ++ ")"

end FileError

/-- What can be seen below a path. -/
inductive FileTree where
  | file
  /-- A link, or anything else that is neither a file nor a directory. -/
  | other
  | directory (entries : List (String × FileTree))
  /-- A directory that cannot be opened. -/
  | closed (error : FileError)
deriving Repr, Inhabited

namespace FileTree

/-- Is this a directory? -/
def isDirectory : FileTree → Bool
  | directory _ | closed _ => true
  | file | other => false

/-- The path of an entry of a directory. -/
def join (path name : String) : String :=
  if path.toList.getLast? == some '/' then path ++ name else path ++ "/" ++ name

/-- The names of directories that are passed over. -/
def skippedNames : List String := ["node_modules", ".git"]

/-- What a walk comes by. -/
inductive Visit where
  | file (path : String)
  | closed (path : String) (error : FileError)
deriving Repr, DecidableEq, Inhabited

mutual

/-- The files and the closed directories below a path, in the order of the entries. -/
def walk (path : String) : FileTree → List Visit
  | file => [.file path]
  | other => []
  | closed error => [.closed path error]
  | directory entries => walkEntries path entries

/-- The same below the entries of a directory, without those passed over. -/
def walkEntries (path : String) : List (String × FileTree) → List Visit
  | [] => []
  | (name, tree) :: entries =>
    (if tree.isDirectory && skippedNames.contains name then [] else walk (join path name) tree) ++
    walkEntries path entries

end

end FileTree

end ProseLint
