import ProseLint.FileTree
import ProseLint.Text.Pieces

/-!
# File systems

A file system as data: directories, files and links below a root directory, and a working directory.
A path that begins with a slash is looked up from the root, any other path from the working
directory. `..` leads to the directory above, and from the root to the root. Links on the way are
followed, up to a bound on their number, and their targets start at the root or at the directory of
the link; a link at the end is followed on request or when a slash stands behind it. Paths and names
have a greatest length.
-/

namespace ProseLint

/-- A thing in a file system. -/
inductive FileNode where
  | file (bytes : ByteArray)
  | directory (entries : List (String × FileNode))
  | link (target : String)
  /-- A directory that may not be opened. -/
  | locked
deriving Inhabited

namespace FileNode

/-- The least number of bytes that is too long for a path. -/
def pathLimit : Nat := 4096

/-- The greatest number of bytes of a name. -/
def nameLimit : Nat := 255

/-- How many links a lookup follows. -/
def linkLimit : Nat := 40

/-- The steps along a path. A slash at an end of it, or next to another, gives an empty step. -/
def steps (path : String) : List String := Text.stringPieces '/' path

/-- Does the path start at the root? -/
def isAbsolute (path : String) : Bool := path.toList.head? == some '/'

/-- The place where a path starts: the root, or else `here`. -/
def start (root : FileNode) (here : List FileNode) (path : String) : List FileNode :=
  if isAbsolute path then [root] else here

/-- Where a step leads: to a place, which is a thing with the directories above it, nearest first,
or onto a link. -/
inductive Step where
  | to (place : List FileNode)
  | onto (target : String)

/-- The step from a place by a name. The empty name leads from a directory to itself, even if it may
not be opened. -/
def step (name : String) : List FileNode → Except FileError Step
  | [] => .error .notFound
  | directory entries :: above =>
    let here := directory entries :: above
    if name == "" || name == "." then .ok (.to here)
    else if name == ".." then .ok (.to (if above.isEmpty then here else above))
    else if nameLimit < name.utf8ByteSize then .error .nameTooLong
    else match entries.lookup name with
      | none => .error .notFound
      | some (link target) => .ok (.onto target)
      | some node => .ok (.to (node :: here))
  | locked :: above => if name == "" then .ok (.to (locked :: above)) else .error .permissionDenied
  | file _ :: _ | link _ :: _ => .error .notDirectory

/-- The place that steps from a place lead to without links; none if they do not. -/
def descend (here : List FileNode) : List String → List FileNode
  | [] => here
  | name :: rest => match step name here with
    | .ok (.to there) => descend there rest
    | _ => []

/-- The thing at the end of some steps from a place. A link on the way goes to `goOn`, with the
place where it stands and the steps behind it, and so does a link at the end if `follow` says so. -/
def along (follow : Bool) (goOn : String → List FileNode → List String → Except FileError FileNode)
    (here : List FileNode) : List String → Except FileError FileNode
  | [] => match here with
    | node :: _ => .ok node
    | [] => .error .notFound
  | name :: rest => match step name here with
    | .ok (.to there) => along follow goOn there rest
    | .ok (.onto target) =>
      if rest.isEmpty && !follow then .ok (link target) else goOn target here rest
    | .error e => .error e

/-- The thing at the end of some steps from a place when as many more links may be followed. -/
def lookup (root : FileNode) (follow : Bool) :
    Nat → List FileNode → List String → Except FileError FileNode
  | 0 => along follow fun _ _ _ => .error .tooManyLinks
  | links + 1 => along follow fun target here rest =>
    lookup root follow links (start root here target) (steps target ++ rest)

@[simp]
theorem lookup_nil (root : FileNode) (follow : Bool) (links : Nat) (node : FileNode)
    (above : List FileNode) : lookup root follow links (node :: above) [] = .ok node := by
  cases links <;> rfl

theorem lookup_cons (root : FileNode) (follow : Bool) (links : Nat) (here : List FileNode)
    (name : String) (rest : List String) :
    lookup root follow links here (name :: rest) =
      match step name here with
      | .ok (.to there) => lookup root follow links there rest
      | .ok (.onto target) =>
        if rest.isEmpty && !follow then .ok (link target)
        else match links with
          | 0 => .error .tooManyLinks
          | links + 1 => lookup root follow links (start root here target) (steps target ++ rest)
      | .error e => .error e := by
  cases links <;> rfl

mutual

/-- What can be seen of a thing at a path. -/
def see (path : String) : FileNode → FileTree
  | file _ => .file
  | link _ => .other
  | locked => .closed .permissionDenied
  | directory entries =>
    if pathLimit ≤ path.utf8ByteSize then .closed .nameTooLong
    else .directory (seeEntries path entries)

/-- What can be seen of the entries of a directory at a path. -/
def seeEntries (path : String) : List (String × FileNode) → List (String × FileTree)
  | [] => []
  | (name, node) :: entries => (name, see (FileTree.join path name) node) :: seeEntries path entries

end

/-- Is this a directory? -/
def isDirectory : FileNode → Bool
  | directory _ | locked => true
  | file _ | link _ => false

/-- Is this a link? -/
def isLink : FileNode → Bool
  | link _ => true
  | _ => false

/-- The entries with the one of this name changed, or added at the end. -/
def update (name : String) (change : Option FileNode → FileNode) :
    List (String × FileNode) → List (String × FileNode)
  | [] => [(name, change none)]
  | (n, node) :: entries =>
    if n == name then (n, change (some node)) :: entries
    else (n, node) :: update name change entries

/-- Puts a thing at the end of some names, with the directories on the way to it. A directory that
is already there keeps its entries, and nothing is put below a thing that is no directory. -/
def insert (new : FileNode) : List String → Option FileNode → FileNode
  | [], some (directory entries) => if new.isDirectory then directory entries else new
  | [], _ => new
  | name :: rest, none => directory [(name, insert new rest none)]
  | name :: rest, some (directory entries) => directory (update name (insert new rest) entries)
  | _ :: _, some old => old

end FileNode

/-- A root directory with all that is below it, and the names that lead from there to the working
directory. If nothing is there, paths that do not begin with a slash lead nowhere. -/
structure FileSystem where
  root : FileNode
  workingDirectory : List String := []
deriving Inhabited

namespace FileSystem

open FileNode

/-- The place of the working directory. -/
def here (fs : FileSystem) : List FileNode := descend [fs.root] fs.workingDirectory

/-- The thing at a path. -/
def at? (fs : FileSystem) (follow : Bool) (path : String) : Except FileError FileNode :=
  if path.toList.contains '\x00' then .error .nulInName
  else if path.isEmpty then .error .notFound
  else if pathLimit ≤ path.utf8ByteSize then .error .nameTooLong
  else lookup fs.root follow linkLimit (start fs.root fs.here path) (steps path)

/-- What can be seen from a path: nothing if it leads nowhere. A link there shows the directory that
it leads to, but not a file. -/
def tree? (fs : FileSystem) (path : String) : Option FileTree :=
  match fs.at? true path, fs.at? false path with
  | .ok target, .ok node =>
    some (if node.isLink && !target.isDirectory then .other else see path target)
  | _, _ => none

/-- The text of the file at a path. -/
def read (fs : FileSystem) (path : String) : Except FileError String :=
  match fs.at? true path with
  | .ok (file bytes) =>
    match String.fromUTF8? bytes with
    | some text => .ok text
    | none => .error .notText
  | .ok (directory _) => .error .isDirectory
  | .ok (link _) => .error .tooManyLinks
  | .ok locked => .error .permissionDenied
  | .error e => .error e

end FileSystem

namespace FileNode

/-- What can be seen from a path if this is the root and the working directory. -/
def tree? (root : FileNode) (path : String) : Option FileTree := FileSystem.tree? { root } path

/-- The text of the file at a path if this is the root and the working directory. -/
def read (root : FileNode) (path : String) : Except FileError String :=
  FileSystem.read { root } path

end FileNode

/-- A directory by itself: the root is the working directory. -/
instance : Coe FileNode FileSystem := ⟨fun root => { root }⟩

end ProseLint
