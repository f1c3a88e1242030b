import ProseLint.Command

/-!
# The program

Reads the arguments, the environment and the files, and writes what a run gives. All that is decided
is decided by the definitions that it calls.
-/

open ProseLint ProseLint.CommandLine

namespace ProseLint.Main

/-- An error of the operating system by its code and text. -/
def fileError : IO.Error → FileError
  | .alreadyExists _ code text | .interrupted _ code text | .noFileOrDirectory _ code text
  | .invalidArgument _ code text | .permissionDenied _ code text | .resourceExhausted _ code text
  | .inappropriateType _ code text | .noSuchThing _ code text | .otherError code text
  | .resourceBusy code text | .resourceVanished code text | .unsupportedOperation code text
  | .hardwareFault code text | .unsatisfiedConstraints code text | .illegalOperation code text
  | .protocolError code text | .timeExpired code text => .other code.toNat text
  | .unexpectedEof => .other 0 "unexpected end of file"
  | .userError text => .other 0 text

/-- What is seen of the entries of a directory, if it can be opened. -/
partial def directoryTree (path : String) : IO FileTree := do
  try
    let entries ← (IO.FS.DirEntry.mk path "").root.readDir
    let seen ← entries.toList.mapM fun entry => do
      let child := FileTree.join path entry.fileName
      match (← (IO.FS.DirEntry.mk child "").root.symlinkMetadata).type with
      | .dir =>
        if FileTree.skippedNames.contains entry.fileName then
          return (entry.fileName, FileTree.directory [])
        else return (entry.fileName, ← directoryTree child)
      | .file => return (entry.fileName, FileTree.file)
      | _ => return (entry.fileName, FileTree.other)
    return .directory seen
  catch e => return .closed (fileError e)

/-- What is seen from a path where a scan starts. -/
def rootTree? (path : String) : IO (Option FileTree) := do
  try
    let target ← (IO.FS.DirEntry.mk path "").root.metadata
    let here ← (IO.FS.DirEntry.mk path "").root.symlinkMetadata
    match target.type, here.type with
    | .dir, _ => return some (← directoryTree path)
    | .file, .file => return some .file
    | _, _ => return some .other
  catch _ => return none

/-- The text of the file at a path. -/
def readText (path : String) : IO (Except FileError String) := do
  try
    match String.fromUTF8? (← IO.FS.readBinFile path) with
    | some text => return .ok text
    | none => return .error .notText
  catch e => return .error (fileError e)

/-- What was found under a key. -/
def found {α : Type} (default : α) (known : List (String × α)) (key : String) : α :=
  (known.lookup key).getD default

/-- Checks the files below the paths. -/
def check (arguments : Arguments) : IO Outcome := do
  let trees ← arguments.paths.mapM fun path => return (path, ← rootTree? path)
  let look := found none trees
  let texts ← (arguments.scan look).files.mapM fun path => return (path, ← readText path)
  return arguments.check look (found (.error .notFound) texts)

/-- The variables of the environment. -/
def environment : IO Environment := do
  return { excludes? := ← IO.getEnv "NO_EN_EXCLUDES"
           forceColor? := ← IO.getEnv "CLICOLOR_FORCE"
           noColor? := ← IO.getEnv "NO_COLOR" }

/-- What a run of the program writes and how it ends. -/
def output (env : Environment) (words : List String) : IO Output := do
  match parse env words with
  | .error refusal => return .ofRefusal env refusal
  | .ok none => return .ofRefusal env (.help .main)
  | .ok (some arguments) => return .ofOutcome env.color (← check arguments)

end ProseLint.Main

def main (words : List String) : IO UInt32 := do
  let output ← ProseLint.Main.output (← ProseLint.Main.environment) words
  (← IO.getStdout).putStr output.stdout
  (← IO.getStderr).putStr output.stderr
  return output.exit.toUInt32
