import Mathlib.Data.String.Basic
import ProseLint.Proofs.FileSystem.Path
import ProseLint.Proofs.FileSystem.Walk
import ProseLint.Scan

/-!
# What a scan finds

A scan of a file system finds the source files that a walk from one of its roots comes by and that
no valid pattern ignores, in ascending order and each once; it skips the roots that do not exist and
the directories that cannot be opened. `ofRoots_finds` says this in terms of what is reached in the
file system, so that neither the order of the entries nor that of the roots counts for the files.
The roots are any paths, from the root directory of the file system or from its working directory.
-/

namespace ProseLint

open FileTree (Visit)

namespace Scan

/-! ## Ascending paths -/

theorem mem_eraseRepsLoop {x a : String} {paths acc : List String} :
    x ∈ List.eraseRepsBy.loop (· == ·) a paths acc ↔ x ∈ acc ∨ x = a ∨ x ∈ paths := by
  induction paths generalizing a acc with
  | nil => simp [List.eraseRepsBy.loop, or_comm]
  | cons b paths ih =>
    rw [List.eraseRepsBy.loop]
    split
    · next heq =>
      rw [ih, eq_of_beq heq, List.mem_cons]
      tauto
    · rw [ih, List.mem_cons, List.mem_cons]
      tauto

/-- The paths taken so far are `acc`, last first, and `a`. -/
theorem pairwise_eraseRepsLoop {a : String} {paths acc : List String}
    (hacc : (a :: acc).Pairwise (· > ·)) (hpaths : (a :: paths).Pairwise (· ≤ ·)) :
    (List.eraseRepsBy.loop (· == ·) a paths acc).Pairwise (· < ·) := by
  induction paths generalizing a acc with
  | nil =>
    rw [List.eraseRepsBy.loop, List.pairwise_reverse]
    exact hacc
  | cons b paths ih =>
    rw [List.eraseRepsBy.loop]
    have hab : a ≤ b := List.rel_of_pairwise_cons hpaths List.mem_cons_self
    split
    · next heq =>
      rw [eq_of_beq heq] at hacc ⊢
      exact ih hacc hpaths.of_cons
    · next hne =>
      have hlt : a < b := lt_of_le_of_ne hab (by simpa using hne)
      refine ih (List.pairwise_cons.2 ⟨fun x hx => ?_, hacc⟩) hpaths.of_cons
      rcases List.mem_cons.1 hx with rfl | hx
      · exact hlt
      · exact lt_trans (List.rel_of_pairwise_cons hacc hx) hlt

theorem isLE_compare_iff {a b : String} : (compare a b).isLE ↔ a ≤ b :=
  Std.LawfulBCmp.isLE_iff_le

theorem mem_ascending_iff {x : String} {paths : List String} :
    x ∈ ascending paths ↔ x ∈ paths := by
  rw [ascending, List.eraseReps]
  have hmem : x ∈ paths.mergeSort (fun a b => (compare a b).isLE) ↔ x ∈ paths :=
    List.mem_mergeSort
  cases h : paths.mergeSort (fun a b => (compare a b).isLE) with
  | nil => rw [← hmem, h, List.eraseRepsBy]
  | cons a rest => rw [← hmem, h, List.eraseRepsBy, mem_eraseRepsLoop]; simp

theorem pairwise_ascending (paths : List String) : (ascending paths).Pairwise (· < ·) := by
  rw [ascending, List.eraseReps]
  have hsorted : (paths.mergeSort (fun a b => (compare a b).isLE)).Pairwise
      fun a b => (compare a b).isLE :=
    List.pairwise_mergeSort (by simpa [isLE_compare_iff] using fun a b c => le_trans)
      (by simpa [isLE_compare_iff] using le_total) paths
  cases h : paths.mergeSort (fun a b => (compare a b).isLE) with
  | nil => simp [List.eraseRepsBy]
  | cons a rest =>
    rw [h] at hsorted
    exact pairwise_eraseRepsLoop (List.pairwise_singleton _ a) (hsorted.imp isLE_compare_iff.1)

theorem ascending_perm {paths : List String} (h : paths.Nodup) : (ascending paths).Perm paths :=
  (List.perm_ext_iff_of_nodup ((pairwise_ascending paths).imp ne_of_lt) h).2
    fun _ => mem_ascending_iff

/-! ## Files -/

theorem mem_validGlobs_iff {patterns : List String} {g : Glob} :
    g ∈ validGlobs patterns ↔ ∃ pattern ∈ patterns, Glob.ofString pattern = .ok g := by
  rw [validGlobs, List.mem_filterMap]
  refine exists_congr fun pattern => and_congr_right fun _ => ?_
  cases Glob.ofString pattern <;> simp [Except.toOption]

theorem validGlobs_filter (patterns : List String) :
    validGlobs (patterns.filter fun pattern => (Glob.ofString pattern).isOk) =
      validGlobs patterns := by
  rw [validGlobs, validGlobs, List.filterMap_filter]
  refine List.filterMap_congr fun pattern _ => ?_
  cases Glob.ofString pattern <;> rfl

theorem sourceFile?_eq_some_iff {ignores : List Glob} {v : Visit} {path : String} :
    sourceFile? ignores v = some path ↔
      v = .file path ∧ Path.isSource path ∧ ∀ g ∈ ignores, ¬ g.covers path := by
  cases v with
  | closed => simp [sourceFile?]
  | file other =>
    simp only [sourceFile?, Option.ite_none_right_eq_some, Option.some.injEq, Visit.file.injEq]
    constructor
    · rintro ⟨hsource, rfl⟩
      simpa using hsource
    · rintro ⟨rfl, hsource⟩
      simpa using hsource

theorem mem_files_iff {ignores : List String} {roots : List Root} {path : String} :
    path ∈ (ofRoots ignores roots).files ↔
      (∃ root ∈ roots, .file path ∈ visits root) ∧ Path.isSource path ∧
        ∀ pattern ∈ ignores, ∀ g, Glob.ofString pattern = .ok g → ¬ g.covers path := by
  simp only [ofRoots, mem_ascending_iff, List.mem_flatMap, List.mem_filterMap,
    sourceFile?_eq_some_iff, mem_validGlobs_iff]
  constructor
  · rintro ⟨root, hroot, v, hv, rfl, hsource, hignores⟩
    exact ⟨⟨root, hroot, hv⟩, hsource,
      fun pattern hpattern g hg => hignores g ⟨pattern, hpattern, hg⟩⟩
  · rintro ⟨⟨root, hroot, hv⟩, hsource, hignores⟩
    exact ⟨root, hroot, _, hv, rfl, hsource, fun g ⟨pattern, hpattern, hg⟩ =>
      hignores pattern hpattern g hg⟩

theorem file_mem_visits_iff {fs : FileSystem} {path target : String} :
    .file target ∈ visits ⟨path, fs.tree? path⟩ ↔ fs.HasFile path target := by
  rw [visits]
  cases h : fs.tree? path with
  | some tree => exact FileSystem.file_mem_walk_tree?_iff h
  | none =>
    refine ⟨fun hmem => absurd hmem List.not_mem_nil, ?_⟩
    rintro ⟨node, route, bytes, hstart, -⟩
    exact absurd ⟨node, hstart.1⟩ (FileSystem.tree?_eq_none_iff.1 h)

/-! ## Skipped paths -/

theorem skipped_ofRoots (ignores : List String) (roots : List Root) :
    (ofRoots ignores roots).skipped =
      (roots.map fun root => (rootWarnings root).countP ScanWarning.isSkip).sum := by
  -- Warnings about patterns are no skipped paths.
  have hpatterns : (ignores.filterMap patternWarning?).countP ScanWarning.isSkip = 0 := by
    refine List.countP_eq_zero.2 fun w hw => ?_
    obtain ⟨pattern, -, hw⟩ := List.mem_filterMap.1 hw
    unfold patternWarning? at hw
    split at hw
    · cases hw
    · cases Option.some.inj hw
      exact Bool.false_ne_true
  rw [skipped, ofRoots, List.countP_append, hpatterns, Nat.zero_add, List.countP_flatMap]
  rfl

theorem countP_isSkip_filterMap (visits : List Visit) :
    (visits.filterMap visitWarning?).countP ScanWarning.isSkip = visits.countP Visit.isClosed := by
  rw [List.countP_filterMap]
  refine List.countP_congr fun v _ => ?_
  cases v <;> simp [visitWarning?, ScanWarning.isSkip, Visit.isClosed]

theorem closedRoutes_of_not_exists {fs : FileSystem} {path : String} (h : ¬ fs.Exists path) :
    fs.closedRoutes path = ∅ := by
  refine Set.eq_empty_of_forall_notMem ?_
  rintro route ⟨node, hstart, -⟩
  exact h ⟨node, hstart.1⟩

/-- A root that does not exist is skipped; from any other root, as many paths are skipped as there
are directories that cannot be opened. -/
theorem countP_isSkip_rootWarnings (fs : FileSystem) (path : String) :
    (rootWarnings ⟨path, fs.tree? path⟩).countP ScanWarning.isSkip =
      (if fs.Exists path then 0 else 1) + (fs.closedRoutes path).ncard := by
  rw [rootWarnings]
  cases h : fs.tree? path with
  | none =>
    have hmissing := FileSystem.tree?_eq_none_iff.1 h
    rw [if_neg hmissing, closedRoutes_of_not_exists hmissing, Set.ncard_empty]
    rfl
  | some tree =>
    have hexists : fs.Exists path := by
      by_contra hmissing
      rw [FileSystem.tree?_eq_none_iff.2 hmissing] at h
      cases h
    rw [if_pos hexists, Nat.zero_add, ← FileSystem.countP_isClosed_walk_tree? h]
    exact countP_isSkip_filterMap _

theorem sum_countP_isSkip (fs : FileSystem) (paths : List String) :
    ((paths.map fun path => ⟨path, fs.tree? path⟩).map fun root =>
        (rootWarnings root).countP ScanWarning.isSkip).sum =
      paths.countP (fun path => ¬ fs.Exists path) +
        (paths.map fun path => (fs.closedRoutes path).ncard).sum := by
  induction paths with
  | nil => rfl
  | cons path paths ih =>
    rw [List.map_cons, List.map_cons, List.sum_cons, ih, countP_isSkip_rootWarnings,
      List.countP_cons, List.map_cons, List.sum_cons]
    by_cases hexists : fs.Exists path
    · simp only [hexists, not_true_eq_false, decide_false, Bool.false_eq_true, if_true, if_false]
      omega
    · simp only [hexists, not_false_eq_true, decide_true, if_true, if_false]
      omega

end Scan

/-- A scan from absolute paths finds the same from every working directory. -/
theorem ofRoots_of_isAbsolute (fs : FileSystem) (ignores : List String) {paths : List String}
    (h : ∀ path ∈ paths, FileNode.isAbsolute path) (names : List String) :
    Scan.ofRoots ignores
        (paths.map fun path => ⟨path, { fs with workingDirectory := names }.tree? path⟩) =
      Scan.ofRoots ignores (paths.map fun path => ⟨path, fs.tree? path⟩) := by
  have hroots : ∀ path ∈ paths,
      Root.mk path ({ fs with workingDirectory := names }.tree? path) = ⟨path, fs.tree? path⟩ := by
    intro path hpath
    rw [FileSystem.tree?_of_isAbsolute fs (h path hpath)]
  rw [List.map_congr_left hroots]

/-- What a scan of a file system finds from some paths, whatever the order of its entries. A path
starts at the root directory if it begins with a slash, else at the working directory; a link on it
leads on from the root directory or from where the link stands. The files are in strictly ascending
order. They are the files that are found from one of the paths, have the extension of a source file,
and whose path is matched by no valid pattern. Skipped are the paths that do not exist and, from
each of the others, the directories that cannot be opened. Invalid patterns make no difference. -/
theorem ofRoots_finds (fs : FileSystem) (ignores paths : List String) :
    let scan := fun ignores => Scan.ofRoots ignores (paths.map fun path => ⟨path, fs.tree? path⟩)
    (scan ignores).files.Pairwise (· < ·) ∧
    (∀ target, target ∈ (scan ignores).files ↔
      (∃ path ∈ paths, fs.HasFile path target) ∧ Path.isSource target ∧
        ∀ pattern ∈ ignores, ∀ g, Glob.ofString pattern = .ok g → ¬ g.covers target) ∧
    (scan ignores).skipped =
      paths.countP (fun path => ¬ fs.Exists path) +
        (paths.map fun path => (fs.closedRoutes path).ncard).sum ∧
    let valid := ignores.filter fun pattern => (Glob.ofString pattern).isOk
    (scan valid).files = (scan ignores).files ∧ (scan valid).skipped = (scan ignores).skipped := by
  intro scan
  refine ⟨Scan.pairwise_ascending _, fun target => ?_, ?_, ?_, ?_⟩
  · simp [scan, Scan.mem_files_iff, Scan.file_mem_visits_iff]
  · exact (Scan.skipped_ofRoots ignores _).trans (Scan.sum_countP_isSkip fs paths)
  · simp only [scan, Scan.ofRoots, Scan.validGlobs_filter]
  · simp only [scan, Scan.skipped_ofRoots]

end ProseLint
