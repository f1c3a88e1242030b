import ProseLint.Proofs.Scan.Files

/-!
# Roots that are files

Whether a root exists is found out by following links, but a walk looks at the root itself and does
not take a link for a file. So a root that leads to a file is taken as it is exactly if no link
stands at its end (`ofRoots_file_root`). A link to a file is neither taken nor counted as skipped.
It makes no difference whether the root or the target of the link begins with a slash.
-/

namespace ProseLint

open FileNode

namespace FileSystem

/-- A link stands at the end of the path. -/
def EndsInLink (fs : FileSystem) (path : String) : Prop :=
  ∃ goal, fs.at? false path = .ok (link goal)

/-- From a path that leads to a file, the file is seen, but not through a link. -/
theorem tree?_of_file {fs : FileSystem} {path : String} {bytes : ByteArray}
    (h : fs.at? true path = .ok (file bytes)) :
    fs.EndsInLink path ∧ fs.tree? path = some .other ∨
      ¬ fs.EndsInLink path ∧ fs.tree? path = some .file := by
  obtain ⟨node, hnode, rfl | hlink⟩ := at?_false_of_at?_true h
  · refine .inr ⟨?_, ?_⟩
    · rintro ⟨goal, hgoal⟩
      rw [hnode] at hgoal
      cases hgoal
    · simp [tree?, h, hnode, isLink, see]
  · cases node with
    | link goal => exact .inl ⟨⟨goal, hnode⟩, by simp [tree?, h, hnode, isLink, isDirectory]⟩
    | _ => cases hlink

end FileSystem

namespace Scan

theorem ofRoots_file {ignores : List String} {path : String} (hsource : Path.isSource path)
    (hignores : ∀ pattern ∈ ignores, ∀ g, Glob.ofString pattern = .ok g → ¬ g.covers path) :
    (ofRoots ignores [⟨path, some .file⟩]).files = [path] := by
  have hfile : sourceFile? (validGlobs ignores) (.file path) = some path := by
    refine sourceFile?_eq_some_iff.2 ⟨rfl, hsource, fun g hg => ?_⟩
    obtain ⟨pattern, hpattern, hglob⟩ := mem_validGlobs_iff.1 hg
    exact hignores pattern hpattern g hglob
  simp [ofRoots, visits, FileTree.walk, hfile, ascending, List.eraseReps, List.eraseRepsBy,
    List.eraseRepsBy.loop]

theorem ofRoots_other (ignores : List String) (path : String) :
    (ofRoots ignores [⟨path, some .other⟩]).files = [] := by
  simp [ofRoots, visits, FileTree.walk, ascending, List.eraseReps, List.eraseRepsBy]

/-- A file or link that is a root is not skipped. -/
theorem skipped_ofRoots_leaf (ignores : List String) (path : String) {tree : FileTree}
    (h : tree = .file ∨ tree = .other) : (ofRoots ignores [⟨path, some tree⟩]).skipped = 0 := by
  rw [skipped_ofRoots]
  rcases h with rfl | rfl <;> rfl

end Scan

/-- A root that leads to a file with the extension of a source file, from the root directory or from
the working directory, and that no valid pattern matches, is what a scan from it finds exactly if no
link stands at its end, and then every scan that starts from it finds it. From a link to such a file
nothing is found, and it is not counted as skipped either. -/
theorem ofRoots_file_root (fs : FileSystem) (ignores : List String) {path : String}
    {bytes : ByteArray} (hfile : fs.at? true path = .ok (.file bytes))
    (hsource : Path.isSource path)
    (hignores : ∀ pattern ∈ ignores, ∀ g, Glob.ofString pattern = .ok g → ¬ g.covers path) :
    let scan := fun paths => Scan.ofRoots ignores (paths.map fun path => ⟨path, fs.tree? path⟩)
    ((scan [path]).files = [path] ↔ ¬ fs.EndsInLink path) ∧
    (fs.EndsInLink path → (scan [path]).files = []) ∧
    (scan [path]).skipped = 0 ∧
    (¬ fs.EndsInLink path → ∀ paths, path ∈ paths → path ∈ (scan paths).files) := by
  intro scan
  have hsingle : scan [path] = Scan.ofRoots ignores [⟨path, fs.tree? path⟩] := rfl
  rcases FileSystem.tree?_of_file hfile with ⟨hlink, htree⟩ | ⟨hlink, htree⟩
  · rw [hsingle, htree, Scan.ofRoots_other, Scan.skipped_ofRoots_leaf ignores path (.inr rfl)]
    simp [hlink]
  · rw [hsingle, htree, Scan.ofRoots_file hsource hignores,
      Scan.skipped_ofRoots_leaf ignores path (.inl rfl)]
    refine ⟨by simp [hlink], fun h => absurd h hlink, rfl, fun _ paths hpath => ?_⟩
    have hroot : ⟨path, fs.tree? path⟩ ∈ paths.map fun path => Root.mk path (fs.tree? path) :=
      List.mem_map_of_mem hpath
    have hvisit : .file path ∈ Scan.visits ⟨path, fs.tree? path⟩ := by
      rw [htree]
      exact List.mem_singleton_self _
    exact Scan.mem_files_iff.2 ⟨⟨_, hroot, hvisit⟩, hsource, hignores⟩

/-- A file in the working directory, and links to it from there and from the root. -/
def linkedFile : FileSystem where
  root := .directory [("src", .directory [("a.js", .file ByteArray.empty), ("l.js", .link "a.js"),
    ("m.js", .link "/src/a.js")])]
  workingDirectory := ["src"]

theorem at?_linkedFile (follow : Bool) :
    linkedFile.at? follow "l.js" =
        .ok (if follow then .file ByteArray.empty else .link "a.js") ∧
      linkedFile.at? follow "/src/m.js" =
        .ok (if follow then .file ByteArray.empty else .link "/src/a.js") ∧
      linkedFile.at? follow "/src/a.js" = .ok (.file ByteArray.empty) := by
  have hrelative : steps "l.js" = ["l.js"] ∧ steps "a.js" = ["a.js"] := by decide
  have habsolute : steps "/src/m.js" = ["", "src", "m.js"] ∧
      steps "/src/a.js" = ["", "src", "a.js"] := by decide
  have hpaths : "/src/m.js".utf8ByteSize = 9 ∧ "/src/a.js".utf8ByteSize = 9 := by decide
  have hnames : "src".utf8ByteSize = 3 ∧ "a.js".utf8ByteSize = 4 ∧ "l.js".utf8ByteSize = 4 ∧
      "m.js".utf8ByteSize = 4 := by decide
  refine ⟨?_, ?_, ?_⟩
  · cases follow <;>
      simp [FileSystem.at?, FileSystem.here, linkedFile, start, isAbsolute, descend, lookup_cons,
        step, List.lookup_cons, linkLimit, pathLimit, nameLimit, hrelative, hnames]
  · cases follow <;>
      simp [FileSystem.at?, linkedFile, start, isAbsolute, lookup_cons, step, List.lookup_cons,
        linkLimit, pathLimit, nameLimit, habsolute, hpaths, hnames]
  · simp [FileSystem.at?, linkedFile, start, isAbsolute, lookup_cons, step, pathLimit, nameLimit,
      habsolute, hpaths, hnames]

theorem ofRoots_file_root_linkedFile :
    (linkedFile.at? true "l.js" = .ok (.file ByteArray.empty) ∧ linkedFile.EndsInLink "l.js" ∧
      (Scan.ofRoots [] [⟨"l.js", linkedFile.tree? "l.js"⟩]).files = [] ∧
      (Scan.ofRoots [] [⟨"l.js", linkedFile.tree? "l.js"⟩]).skipped = 0) ∧
    (linkedFile.at? true "/src/m.js" = .ok (.file ByteArray.empty) ∧
      linkedFile.EndsInLink "/src/m.js" ∧
      (Scan.ofRoots [] [⟨"/src/m.js", linkedFile.tree? "/src/m.js"⟩]).files = [] ∧
      (Scan.ofRoots [] [⟨"/src/m.js", linkedFile.tree? "/src/m.js"⟩]).skipped = 0) ∧
    linkedFile.at? true "/src/a.js" = .ok (.file ByteArray.empty) ∧
      ¬ linkedFile.EndsInLink "/src/a.js" ∧
      (Scan.ofRoots [] [⟨"/src/a.js", linkedFile.tree? "/src/a.js"⟩]).files = ["/src/a.js"] := by
  obtain ⟨hrelative, habsolute, hfile⟩ := at?_linkedFile true
  obtain ⟨hgoal, hgoal', hsame⟩ := at?_linkedFile false
  have hlink : linkedFile.EndsInLink "l.js" := ⟨"a.js", hgoal⟩
  have hlink' : linkedFile.EndsInLink "/src/m.js" := ⟨"/src/a.js", hgoal'⟩
  have hplain : ¬ linkedFile.EndsInLink "/src/a.js" := by
    rintro ⟨goal, h⟩
    rw [hsame] at h
    cases h
  obtain ⟨-, hnone, hskipped, -⟩ :=
    ofRoots_file_root linkedFile [] hrelative (by decide) (by simp)
  obtain ⟨-, hnone', hskipped', -⟩ :=
    ofRoots_file_root linkedFile [] habsolute (by decide) (by simp)
  obtain ⟨htaken, -⟩ := ofRoots_file_root linkedFile [] hfile (by decide) (by simp)
  exact ⟨⟨hrelative, hlink, hnone hlink, hskipped⟩,
    ⟨habsolute, hlink', hnone' hlink', hskipped'⟩, hfile, hplain, htaken.2 hplain⟩

end ProseLint
