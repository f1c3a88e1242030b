import ProseLint.FileSystem
import ProseLint.Proofs.Text.Pieces

/-!
# Absolute and relative paths

An absolute path leads to the same thing from every working directory (`at?_of_isAbsolute`), and a
relative path leads to the same thing as the absolute path that has the names of the working
directory before it (`at?_absolute`). The second holds because looking up some steps without links
on the way only changes the place from which the others are looked up (`lookup_append`).
-/

namespace ProseLint

namespace FileNode

theorem lookup_append {root : FileNode} {follow : Bool} {links : Nat} {here : List FileNode}
    {names : List String} (rest : List String) (h : descend here names ≠ []) :
    lookup root follow links here (names ++ rest) =
      lookup root follow links (descend here names) rest := by
  induction names generalizing here with
  | nil => rfl
  | cons name names ih =>
    rw [List.cons_append, lookup_cons]
    rw [descend] at h ⊢
    split at h
    · next there hstep =>
      rw [hstep]
      exact ih h
    · exact absurd rfl h

/-- The first, empty step of an absolute path stays at the root. -/
theorem step_root {root : FileNode} (h : root.isDirectory) : step "" [root] = .ok (.to [root]) := by
  cases root with
  | directory entries => rfl
  | locked => rfl
  | file | link => cases h

end FileNode

namespace FileSystem

open FileNode

/-- The working directory is not looked at. -/
theorem at?_of_isAbsolute (fs : FileSystem) (follow : Bool) {path : String} (h : isAbsolute path)
    (names : List String) :
    { fs with workingDirectory := names }.at? follow path = fs.at? follow path := by
  simp only [at?, start, if_pos h]

theorem tree?_of_isAbsolute (fs : FileSystem) {path : String} (h : isAbsolute path)
    (names : List String) :
    { fs with workingDirectory := names }.tree? path = fs.tree? path := by
  simp only [tree?, at?_of_isAbsolute fs _ h]

/-- A path with some names before it. -/
def behind (names : List String) (path : String) : String :=
  names.foldr (fun name rest => name ++ "/" ++ rest) path

theorem steps_behind {names : List String} (h : ∀ name ∈ names, '/' ∉ name.toList) (path : String) :
    steps (behind names path) = names ++ steps path := by
  induction names with
  | nil => rfl
  | cons name names ih =>
    rw [List.forall_mem_cons] at h
    rw [behind, List.foldr_cons, List.cons_append, ← ih h.2]
    exact Text.stringPieces_append h.1 _

theorem contains_behind {c : Char} {names : List String} (hc : c ≠ '/')
    (h : ∀ name ∈ names, c ∉ name.toList) (path : String) :
    (behind names path).toList.contains c = path.toList.contains c := by
  induction names with
  | nil => rfl
  | cons name names ih =>
    rw [List.forall_mem_cons] at h
    rw [← ih h.2, behind, List.foldr_cons, ← behind]
    simp [h.1, hc]

theorem utf8ByteSize_le_behind (names : List String) (path : String) :
    path.utf8ByteSize ≤ (behind names path).utf8ByteSize := by
  induction names with
  | nil => exact Nat.le_refl _
  | cons name names ih =>
    rw [behind, List.foldr_cons, ← behind, String.utf8ByteSize_append]
    omega

/-- The path from the root that a path from the working directory is short for. -/
def absolute (fs : FileSystem) (path : String) : String := behind ("" :: fs.workingDirectory) path

theorem isAbsolute_absolute (fs : FileSystem) (path : String) : isAbsolute (fs.absolute path) := by
  simp [absolute, behind, isAbsolute]

/-- A relative path leads to what its absolute path leads to, if that is not too long and the
working directory is there. -/
theorem at?_absolute {fs : FileSystem} (follow : Bool) {path : String}
    (hroot : fs.root.isDirectory) (hhere : fs.here ≠ [])
    (hnames : ∀ name ∈ fs.workingDirectory, '/' ∉ name.toList ∧ '\x00' ∉ name.toList)
    (hrelative : ¬ isAbsolute path) (hpath : path ≠ "")
    (hlimit : (fs.absolute path).utf8ByteSize < pathLimit) :
    fs.at? follow (fs.absolute path) = fs.at? follow path := by
  have hsteps : steps (fs.absolute path) = "" :: fs.workingDirectory ++ steps path :=
    steps_behind (by simpa using fun name hname => (hnames name hname).1) path
  have hnul : (fs.absolute path).toList.contains '\x00' = path.toList.contains '\x00' :=
    contains_behind (by decide) (by simpa using fun name hname => (hnames name hname).2) path
  have hshort : path.utf8ByteSize < pathLimit :=
    Nat.lt_of_le_of_lt (utf8ByteSize_le_behind _ path) hlimit
  have hne : fs.absolute path ≠ "" := by
    intro he
    have h := isAbsolute_absolute fs path
    rw [he] at h
    cases h
  have hlookup : lookup fs.root follow linkLimit [fs.root] (steps (fs.absolute path)) =
      lookup fs.root follow linkLimit fs.here (steps path) := by
    rw [hsteps, List.cons_append, lookup_cons, step_root hroot]
    exact lookup_append (steps path) hhere
  simp only [at?, hnul, start, if_pos (isAbsolute_absolute fs path), if_neg hrelative, hlookup,
    String.isEmpty_iff, hne, hpath, if_neg (Nat.not_le.2 hlimit), if_neg (Nat.not_le.2 hshort)]

end FileSystem

end ProseLint
