import Mathlib.Data.List.Nodup
import Mathlib.Data.List.Perm.Basic
import ProseLint.Proofs.Command.Ending
import ProseLint.Proofs.Issue.Order
import ProseLint.Proofs.Scan.Files

/-!
# Files are checked independently

Every issue of a file bears the path of the file, and issues are ordered by path first. So the
sorted issues of several files are those of each file, sorted by themselves, one file after the
other in the order of their paths (`issues_ofPaths_eq_flatMap`). All else that
`ofPaths_independent` says of several files is read off this list: the order in which they are
given does not count, and a file that cannot be read or parsed adds one issue and leaves those of
the others alone.
-/

namespace ProseLint

/-! ## Single files -/

/-- A file that cannot be read or parsed has a single issue that says so; any other file has an
issue for each of its violations. -/
theorem checkFile_cases (e : Exemptions) (s : Source) :
    (s.tree? = none ∧ ∃ error, checkFile e s = [.unparsed s.path error]) ∨
      ∃ tree text, s.tree? = some tree ∧
        checkFile e s = (violations e tree).map (issueOf s.path text) := by
  unfold checkFile Source.tree? checkSource
  cases s.content with
  | error error => exact .inl ⟨rfl, _, rfl⟩
  | ok text =>
    cases hparse : Syntax.Program.parse (Path.dialect s.path) text.toList with
    | error error =>
      simp only [hparse]
      exact .inl ⟨rfl, _, rfl⟩
    | ok tree =>
      simp only [hparse]
      exact .inr ⟨tree, _, rfl, rfl⟩

theorem file_of_mem_checkFile {e : Exemptions} {s : Source} {i : Issue} (h : i ∈ checkFile e s) :
    i.file = s.path := by
  rcases checkFile_cases e s with ⟨-, error, heq⟩ | ⟨tree, text, -, heq⟩
  · rw [heq, List.mem_singleton] at h
    rw [h]
    rfl
  · rw [heq] at h
    obtain ⟨v, -, rfl⟩ := List.mem_map.1 h
    rfl

/-- Each file is either checked or named by exactly one issue. -/
theorem countP_isUnparsed_checkFile (e : Exemptions) (s : Source) :
    (checkFile e s).countP Issue.isUnparsed = if s.tree?.isSome then 0 else 1 := by
  rcases checkFile_cases e s with ⟨htree, error, heq⟩ | ⟨tree, text, htree, heq⟩
  · rw [heq, htree]
    rfl
  · rw [heq, htree, List.countP_map]
    exact List.countP_eq_zero.2 fun v _ => Bool.false_ne_true

theorem any_isUnparsed_checkFile (e : Exemptions) (s : Source) :
    (checkFile e s).any Issue.isUnparsed = s.tree?.isNone := by
  have hcount := countP_isUnparsed_checkFile e s
  rw [Bool.eq_iff_iff, List.any_eq_true, ← List.countP_pos_iff, hcount]
  cases s.tree? <;> simp

namespace CheckResult

/-- What checking the files at some paths gives, where `read` is what can be read there. -/
def ofPaths (e : Exemptions) (read : String → Except FileError String) (paths : List String) :
    CheckResult :=
  ofSources e (paths.map fun path => ⟨path, read path⟩)

section Paths

variable (e : Exemptions) (read : String → Except FileError String)

/-- The issues of the file at a path, in the order of reports. -/
def issuesAt (path : String) : List Issue := Issue.sorted (checkFile e ⟨path, read path⟩)

variable {e read}

theorem file_of_mem_issuesAt {path : String} {i : Issue} (h : i ∈ issuesAt e read path) :
    i.file = path :=
  file_of_mem_checkFile ((Issue.sorted_perm _).mem_iff.1 h)

variable (e read)

theorem issues_ofPaths (paths : List String) :
    (ofPaths e read paths).issues =
      Issue.sorted (paths.flatMap fun path => checkFile e ⟨path, read path⟩) := by
  rw [issues, ofPaths, flatten_perFile, List.flatMap_map]

theorem issues_ofPaths_singleton (path : String) :
    (ofPaths e read [path]).issues = issuesAt e read path := by
  rw [issues_ofPaths, List.flatMap_singleton]
  rfl

/-! ## Sorting by file -/

/-- Of the lists for some paths, only those for a given path hold issues of its file. -/
theorem filter_file_flatMap {f : String → List Issue} (hf : ∀ path, ∀ i ∈ f path, i.file = path)
    (p : String → Bool) (paths : List String) :
    (paths.flatMap f).filter (fun i => p i.file) = (paths.filter p).flatMap f := by
  induction paths with
  | nil => rfl
  | cons path paths ih =>
    rw [List.flatMap_cons, List.filter_append, ih]
    cases hp : p path with
    | true =>
      rw [List.filter_cons_of_pos hp, List.flatMap_cons, List.filter_eq_self.2]
      intro i hi
      rw [hf path i hi, hp]
    | false =>
      rw [List.filter_cons_of_neg (by simp [hp]), List.filter_eq_nil_iff.2, List.nil_append]
      intro i hi
      rw [hf path i hi, hp]
      exact Bool.false_ne_true

/-- Issues that tie are of the same file, so the order of the files does not count for them. -/
theorem filter_ties_flatMap {f : String → List Issue} (hf : ∀ path, ∀ i ∈ f path, i.file = path)
    {paths others : List String} (h : paths.Perm others) (a : Issue) :
    (paths.flatMap f).filter (Issue.ties a) = (others.flatMap f).filter (Issue.ties a) := by
  have hfile : ∀ l : List Issue, l.filter (Issue.ties a) =
      (l.filter fun i => i.file == a.file).filter (Issue.ties a) := by
    intro l
    rw [List.filter_filter]
    refine List.filter_congr fun i _ => ?_
    cases hi : Issue.ties a i with
    | false => rfl
    | true => simp [Issue.file_eq_of_ties hi]
  rw [hfile, hfile (others.flatMap f), filter_file_flatMap hf (· == a.file),
    filter_file_flatMap hf (· == a.file), List.filter_beq, List.filter_beq, h.count_eq]

theorem pairwise_flatMap_issuesAt {paths : List String} (h : paths.Pairwise (· < ·)) :
    (paths.flatMap (issuesAt e read)).Pairwise (Issue.le · ·) := by
  rw [List.pairwise_flatMap]
  refine ⟨fun path _ => Issue.pairwise_sorted _, h.imp fun {p q} hlt i hi j hj => ?_⟩
  apply Issue.le_of_file_lt
  rwa [file_of_mem_issuesAt hi, file_of_mem_issuesAt hj]

/-- The issues of some files are those of each file, one file after the other by their paths. -/
theorem issues_ofPaths_eq_flatMap {paths ascending : List String} (hperm : ascending.Perm paths)
    (hascending : ascending.Pairwise (· < ·)) :
    (ofPaths e read paths).issues = ascending.flatMap (issuesAt e read) := by
  rw [issues_ofPaths]
  -- Both sides are in the order of reports. That order leaves ties open, but the sort is stable and
  -- ties are of one file.
  refine Issue.eq_of_perm_of_pairwise ?_ (Issue.pairwise_sorted _)
    (pairwise_flatMap_issuesAt e read hascending) fun a => ?_
  · refine (Issue.sorted_perm _).trans ((hperm.symm.flatMap_right _).trans ?_)
    exact List.Perm.flatMap_left _ fun path _ => (Issue.sorted_perm _).symm
  · rw [Issue.filter_ties_sorted, filter_ties_flatMap (fun _ _ => file_of_mem_checkFile) hperm.symm,
      List.filter_flatMap, List.filter_flatMap]
    exact List.flatMap_congr fun path _ => (Issue.filter_ties_sorted a _).symm

theorem issues_ofPaths_perm {paths others : List String} (h : paths.Nodup)
    (hperm : others.Perm paths) :
    (ofPaths e read others).issues = (ofPaths e read paths).issues := by
  have hascending := Scan.ascending_perm h
  rw [issues_ofPaths_eq_flatMap e read hascending (Scan.pairwise_ascending paths),
    issues_ofPaths_eq_flatMap e read (hascending.trans hperm.symm) (Scan.pairwise_ascending paths)]

/-- The issues of some of the files are the same with and without the other files. -/
theorem filter_issues_ofPaths {paths : List String} (h : paths.Nodup) (p : String → Bool) :
    (ofPaths e read paths).issues.filter (fun i => p i.file) =
      (ofPaths e read (paths.filter p)).issues := by
  have hperm := Scan.ascending_perm h
  have hlt := Scan.pairwise_ascending paths
  rw [issues_ofPaths_eq_flatMap e read hperm hlt,
    issues_ofPaths_eq_flatMap e read (hperm.filter p) (hlt.filter p)]
  exact filter_file_flatMap (fun _ _ => file_of_mem_issuesAt) p (Scan.ascending paths)

/-! ## Counting files -/

theorem filesChecked_ofPaths (paths : List String) :
    (ofPaths e read paths).filesChecked =
      paths.countP fun path => (Source.tree? ⟨path, read path⟩).isSome := by
  rw [filesChecked, ofPaths, ofSources, List.map_map, List.countP_map]
  refine List.countP_congr fun path _ => ?_
  rw [Function.comp_apply, Function.comp_apply, any_isUnparsed_checkFile]
  simp

theorem parseErrors_ofPaths (paths : List String) :
    (ofPaths e read paths).parseErrors =
      paths.countP fun path => (Source.tree? ⟨path, read path⟩).isNone := by
  rw [parseErrors, ofPaths, flatten_perFile, List.flatMap_map, List.countP_flatMap]
  induction paths with
  | nil => rfl
  | cons path paths ih =>
    rw [List.map_cons, List.sum_cons, ih, List.countP_cons, Function.comp_apply,
      countP_isUnparsed_checkFile]
    cases Source.tree? ⟨path, read path⟩ <;> simp [Nat.add_comm]

theorem sum_filesChecked_ofPaths (paths : List String) :
    (paths.map fun path => (ofPaths e read [path]).filesChecked).sum =
      (ofPaths e read paths).filesChecked := by
  simp only [filesChecked_ofPaths]
  induction paths with
  | nil => rfl
  | cons path paths ih =>
    rw [List.map_cons, List.sum_cons, ih, ← List.countP_append, List.singleton_append]

/-- A file that cannot be checked makes no difference to the number of those that are. -/
theorem filesChecked_filter_ne {path : String} (h : Source.tree? ⟨path, read path⟩ = none)
    (paths : List String) :
    (ofPaths e read (paths.filter (· != path))).filesChecked =
      (ofPaths e read paths).filesChecked := by
  rw [filesChecked_ofPaths, filesChecked_ofPaths, List.countP_filter]
  refine List.countP_congr fun other _ => ?_
  by_cases hother : other = path
  · simp [hother, h]
  · simp [hother]

end Paths

end CheckResult

open CheckResult (ofPaths)

/-- Files at different paths are checked independently of each other. Their issues are those of each
file alone, one file after the other in ascending order of their paths, and as many files are
checked as are checked of each alone. So the order in which the paths are given does not count; a
file that cannot be read or parsed has exactly one issue, without which all is as if it were not
given; and each file is either checked or named by one such issue. -/
theorem ofPaths_independent (e : Exemptions) (read : String → Except FileError String)
    (paths : List String) (h : paths.Nodup) :
    let check := ofPaths e read
    (∃ ascending : List String, ascending.Perm paths ∧ ascending.Pairwise (· < ·) ∧
      (check paths).issues = ascending.flatMap fun path => (check [path]).issues) ∧
    (check paths).filesChecked = (paths.map fun path => (check [path]).filesChecked).sum ∧
    (∀ others, others.Perm paths → (check others).issues = (check paths).issues ∧
      (check others).filesChecked = (check paths).filesChecked) ∧
    (∀ path ∈ paths, Source.tree? ⟨path, read path⟩ = none →
      let others := paths.filter (· != path)
      (∃ error, (check paths).issues.filter (fun i => i.file == path) = [.unparsed path error]) ∧
      (check paths).issues.filter (fun i => i.file != path) = (check others).issues ∧
      (check paths).filesChecked = (check others).filesChecked) ∧
    (check paths).parseErrors = (check paths).issues.countP Issue.isUnparsed ∧
    (check paths).filesChecked + (check paths).parseErrors = paths.length := by
  intro check
  refine ⟨?_, (CheckResult.sum_filesChecked_ofPaths e read paths).symm,
    fun others hothers => ⟨CheckResult.issues_ofPaths_perm e read h hothers, ?_⟩,
    fun path hpath htree => ⟨?_, CheckResult.filter_issues_ofPaths e read h (· != path),
      (CheckResult.filesChecked_filter_ne e read htree paths).symm⟩, ?_, ?_⟩
  · have hperm := Scan.ascending_perm h
    have hlt := Scan.pairwise_ascending paths
    refine ⟨Scan.ascending paths, hperm, hlt, ?_⟩
    simp only [check, CheckResult.issues_ofPaths_singleton]
    exact CheckResult.issues_ofPaths_eq_flatMap e read hperm hlt
  · simp only [check, CheckResult.filesChecked_ofPaths]
    exact hothers.countP_eq _
  · have honly : paths.filter (· == path) = [path] := by
      rw [List.filter_beq, List.count_eq_one_of_mem h hpath]
      rfl
    have hissues := CheckResult.filter_issues_ofPaths e read h (· == path)
    rw [honly, CheckResult.issues_ofPaths_singleton] at hissues
    rcases checkFile_cases e ⟨path, read path⟩ with ⟨-, error, heq⟩ | ⟨tree, text, htree', -⟩
    · refine ⟨error, hissues.trans ?_⟩
      rw [CheckResult.issuesAt, heq, Issue.sorted, List.mergeSort_singleton]
    · rw [htree] at htree'
      cases htree'
  · exact ((Issue.sorted_perm _).countP_eq _).symm
  · simp only [check, CheckResult.filesChecked_ofPaths, CheckResult.parseErrors_ofPaths]
    rw [List.length_eq_countP_add_countP fun path => (Source.tree? ⟨path, read path⟩).isSome]
    refine congrArg _ (List.countP_congr fun path _ => ?_)
    simp

/-- A file with English text, one that is missing and one that is no program. -/
def threeFiles (path : String) : Except FileError String :=
  if path == "a.js" then .ok "x=\"Some t\""
  else if path == "c.js" then .ok "("
  else .error .notFound

theorem ofPaths_independent_threeFiles :
    let check := ofPaths {} threeFiles
    let paths := ["b.js", "a.js", "c.js"]
    paths.Nodup ∧ Source.tree? ⟨"b.js", threeFiles "b.js"⟩ = none ∧
    (check paths).issues = [
      .english ⟨"a.js", 1, 3, "x=\"Some t\""⟩ "Some t" .assignment,
      .unparsed "b.js" (readErrorText "b.js" .notFound),
      .unparsed "c.js" (parseErrorText "c.js")] ∧
    (check paths).issues.filter (fun i => i.file != "b.js") = (check ["a.js", "c.js"]).issues ∧
    (check ["c.js", "b.js", "a.js"]).issues = (check paths).issues ∧
    (check paths).filesChecked + (check paths).parseErrors = 3 := by
  intro check paths
  have hnodup : paths.Nodup := by decide
  obtain ⟨-, -, hperm, hfailed, -, hcount⟩ := ofPaths_independent {} threeFiles paths hnodup
  refine ⟨hnodup, rfl, ?_, (hfailed "b.js" (by decide) rfl).2.1, (hperm _ (by decide)).1, hcount⟩
  have ha : checkFile {} ⟨"a.js", threeFiles "a.js"⟩ =
      [.english ⟨"a.js", 1, 3, "x=\"Some t\""⟩ "Some t" .assignment] := by decide +kernel
  have hc : checkFile {} ⟨"c.js", threeFiles "c.js"⟩ =
      [.unparsed "c.js" (parseErrorText "c.js")] := by decide +kernel
  have hb : checkFile {} ⟨"b.js", threeFiles "b.js"⟩ =
      [.unparsed "b.js" (readErrorText "b.js" .notFound)] := rfl
  rw [CheckResult.issues_ofPaths_eq_flatMap {} threeFiles
    (show ["a.js", "b.js", "c.js"].Perm paths by decide) (by decide)]
  simp [CheckResult.issuesAt, Issue.sorted, ha, hb, hc]

end ProseLint
