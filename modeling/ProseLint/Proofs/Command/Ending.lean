import Mathlib.Data.List.Basic
import ProseLint.Command

/-!
# How a check ends

A check reads its options, scans its paths, checks the files that it found and shows the result.
Each stage is described by what it passes on: the options by their excludes
(`options_eq_ok_of_not_rejected`), a file by the number of its issues (`length_checkFile`), a result
by whether it has issues and whether they can be printed (`Outcome.ofResult_of_clean`,
`Outcome.ofResult_of_fit`, `Outcome.ofResult_of_not_fit`). `check_exit_and_stdout` puts the stages
together: which exit code a check has, and what it writes to standard output.
-/

namespace ProseLint

open ProseLint.CommandLine (Arguments)
open ProseLint.Styled (plain)
open ProseLint.Syntax (Node Program.parse)

/-! ## Single files -/

namespace Source

/-- The tree of the file, if it can be read and parsed. -/
def tree? (s : Source) : Option Node :=
  match s.content with
  | .ok text => (Program.parse (Path.dialect s.path) text.toList).toOption
  | .error _ => none

/-- The file can be read and parsed and has no violations. -/
def Clean (e : Exemptions) (s : Source) : Prop :=
  ∃ tree, s.tree? = some tree ∧ violations e tree = []

end Source

/-- A file has one issue for each violation, or a single one if it cannot be read or parsed. -/
theorem length_checkFile (e : Exemptions) (s : Source) :
    (checkFile e s).length = (s.tree?.map fun tree => (violations e tree).length).getD 1 := by
  unfold checkFile Source.tree?
  cases s.content with
  | error error => rfl
  | ok text =>
    simp only [checkSource]
    cases Program.parse (Path.dialect s.path) text.toList with
    | error error => rfl
    | ok tree => simp [Except.toOption]

theorem checkFile_eq_nil_iff {e : Exemptions} {s : Source} : checkFile e s = [] ↔ s.Clean e := by
  rw [← List.length_eq_zero_iff, length_checkFile, Source.Clean]
  cases s.tree? <;> simp

/-! ## All files -/

/-- The number of problems in some files: the violations of those that can be read and parsed, and
the number of those that cannot. -/
def problems (e : Exemptions) (sources : List Source) : Nat :=
  ((sources.filterMap Source.tree?).flatMap (violations e)).length +
    sources.countP fun s => s.tree?.isNone

namespace CheckResult

theorem flatten_perFile (e : Exemptions) (sources : List Source) :
    (ofSources e sources).perFile.flatten = sources.flatMap (checkFile e) := by
  rw [ofSources, List.flatMap_def]

theorem length_issues (e : Exemptions) (sources : List Source) :
    (ofSources e sources).issues.length = problems e sources := by
  rw [issues, Issue.sorted, List.length_mergeSort, flatten_perFile, problems]
  induction sources with
  | nil => rfl
  | cons s sources ih =>
    rw [List.flatMap_cons, List.length_append, ih, length_checkFile]
    cases h : s.tree? with
    | none => simp [h]; omega
    | some tree => simp [h]; omega

theorem mem_issues_iff {e : Exemptions} {sources : List Source} {i : Issue} :
    i ∈ (ofSources e sources).issues ↔ ∃ s ∈ sources, i ∈ checkFile e s := by
  rw [issues, Issue.sorted, List.mem_mergeSort, flatten_perFile, List.mem_flatMap]

theorem issues_eq_nil_iff {e : Exemptions} {sources : List Source} :
    (ofSources e sources).issues = [] ↔ ∀ s ∈ sources, s.Clean e := by
  simp only [← checkFile_eq_nil_iff, List.eq_nil_iff_forall_not_mem, mem_issues_iff]
  grind

/-- If no file has issues, all of them were read and parsed. -/
theorem filesChecked_of_clean {e : Exemptions} {sources : List Source}
    (h : ∀ s ∈ sources, s.Clean e) : (ofSources e sources).filesChecked = sources.length := by
  rw [filesChecked, ofSources, List.countP_map, List.countP_eq_length]
  intro s hs
  simp [checkFile_eq_nil_iff.2 (h s hs)]

theorem status_ofSources (e : Exemptions) (sources : List Source) :
    (ofSources e sources).status =
      if (ofSources e sources).issues.isEmpty then .success else .failure := by
  have h : (ofSources e sources).perFile.flatten.isEmpty =
      (ofSources e sources).issues.isEmpty := by
    rw [Bool.eq_iff_iff, List.isEmpty_iff, List.isEmpty_iff, ← List.length_eq_zero_iff,
      ← List.length_eq_zero_iff, issues, Issue.sorted, List.length_mergeSort]
  rw [status, h]

end CheckResult

/-! ## Options and outcomes -/

/-- The options text of a check cannot be read. -/
def CommandLine.Arguments.Rejected (a : Arguments) : Prop :=
  ∃ text fault, a.options? = some text ∧ Options.ofText text = .error fault

/-- The options that the options text of a check gives, which are empty if there is no text. -/
def CommandLine.Arguments.Gives (a : Arguments) (given : Options) : Prop :=
  match a.options? with
  | some text => Options.ofText text = .ok given
  | none => given = {}

/-- The options of a check are those of its text, with the excludes of its flags behind. -/
theorem options_eq_ok_of_not_rejected {a : Arguments} (h : ¬ a.Rejected) :
    ∃ given, a.Gives given ∧ a.options = .ok (given.withExcludes a.excludes) := by
  unfold Arguments.options Arguments.Gives
  cases htext : a.options? with
  | none => exact ⟨{}, rfl, rfl⟩
  | some text =>
    cases hread : Options.ofText text with
    | ok given => exact ⟨given, hread, by simp [hread]⟩
    | error fault => exact absurd ⟨text, fault, htext, hread⟩ h

theorem options_eq_error_of_rejected {a : Arguments} (h : a.Rejected) :
    ∃ message, a.options = .error message := by
  obtain ⟨text, fault, htext, hread⟩ := h
  exact ⟨fault.message text.toList, by simp [Arguments.options, htext, hread]⟩

/-- The files that a check finds, each with its text or why it cannot be read. -/
def CommandLine.Arguments.sources (a : Arguments) (look : String → Option FileTree)
    (read : String → Except FileError String) : List Source :=
  (a.scan look).files.map fun path => ⟨path, read path⟩

/-- Every caret that a report of the files would show can be placed. -/
def CaretsFit (e : Exemptions) (sources : List Source) : Prop :=
  ∀ s ∈ sources, ∀ i ∈ checkFile e s, Report.fits i

theorem caretsFit_of_clean {e : Exemptions} {sources : List Source}
    (h : ∀ s ∈ sources, s.Clean e) : CaretsFit e sources := by
  intro s hs i hi
  rw [checkFile_eq_nil_iff.2 (h s hs)] at hi
  exact absurd hi List.not_mem_nil

namespace Outcome

theorem ofResult_of_clean {e : Exemptions} {sources : List Source} (h : ∀ s ∈ sources, s.Clean e)
    (verbose : Bool) (options : Options) (scan : Scan) :
    let o := ofResult verbose options scan (CheckResult.ofSources e sources)
    o.status = .success ∧ o.out = Report.success sources.length ++ [plain "\n"] := by
  have hissues : (CheckResult.ofSources e sources).issues = [] := CheckResult.issues_eq_nil_iff.2 h
  simp [ofResult, shown?, hissues, CheckResult.status_ofSources,
    CheckResult.filesChecked_of_clean h]

/-- A result with issues that can be printed ends in failure, with a report that counts them. -/
theorem ofResult_of_fit {e : Exemptions} {sources : List Source} (h : ¬ ∀ s ∈ sources, s.Clean e)
    (hfit : CaretsFit e sources) (verbose : Bool) (options : Options) (scan : Scan) :
    let o := ofResult verbose options scan (CheckResult.ofSources e sources)
    o.status = .failure ∧
      ∃ blocks, o.out = blocks ++ Report.summary (problems e sources) := by
  have hissues : (CheckResult.ofSources e sources).issues.isEmpty = false := by
    simpa [CheckResult.issues_eq_nil_iff] using h
  have hall : (CheckResult.ofSources e sources).issues.all Report.fits = true := by
    rw [List.all_eq_true]
    intro i hi
    obtain ⟨s, hs, his⟩ := CheckResult.mem_issues_iff.1 hi
    exact hfit s hs i his
  have hlength : (Issue.sorted (CheckResult.ofSources e sources).issues).length =
      problems e sources := by
    rw [Issue.sorted, List.length_mergeSort, CheckResult.length_issues]
  simp only [ofResult, shown?, hissues, Bool.false_eq_true, ↓reduceIte, Report.ofIssues?, hall,
    CheckResult.status_ofSources, Report.ofIssues, hlength, true_and]
  exact ⟨_, rfl⟩

/-- A result with a caret that cannot be placed breaks the run off before anything is printed. -/
theorem ofResult_of_not_fit {e : Exemptions} {sources : List Source}
    (hfit : ¬ CaretsFit e sources) (verbose : Bool) (options : Options) (scan : Scan) :
    let o := ofResult verbose options scan (CheckResult.ofSources e sources)
    o.status = .aborted ∧ o.out = [] := by
  have hall : (CheckResult.ofSources e sources).issues.all Report.fits = false := by
    rw [List.all_eq_false]
    simp only [CaretsFit, not_forall] at hfit
    obtain ⟨s, hs, i, hi, hfits⟩ := hfit
    exact ⟨i, CheckResult.mem_issues_iff.2 ⟨s, hs, hi⟩, hfits⟩
  have hissues : (CheckResult.ofSources e sources).issues.isEmpty = false := by
    cases h : (CheckResult.ofSources e sources).issues with
    | nil => simp [h] at hall
    | cons => rfl
  simp [ofResult, shown?, hissues, Report.ofIssues?, hall]

/-- Whether the run is verbose shows only in what is written besides the result. -/
theorem ofResult_verbose (v w : Bool) (options : Options) (scan : Scan) (result : CheckResult) :
    (ofResult v options scan result).status = (ofResult w options scan result).status ∧
      (ofResult v options scan result).out = (ofResult w options scan result).out := by
  unfold ofResult
  cases shown? result <;> exact ⟨rfl, rfl⟩

end Outcome

/-! ## A whole check -/

section Check

variable (a : Arguments) (look : String → Option FileTree)
  (read : String → Except FileError String)

theorem check_of_rejected {a : Arguments} (h : a.Rejected) :
    (a.check look read).status = .error ∧ (a.check look read).out = [] := by
  obtain ⟨message, hoptions⟩ := options_eq_error_of_rejected h
  simp [Arguments.check, hoptions, Outcome.failed]

theorem check_of_not_rejected {a : Arguments} (h : ¬ a.Rejected) :
    ∃ given, a.Gives given ∧ a.check look read =
      .ofResult a.verbose (given.withExcludes a.excludes) (a.scan look)
        (CheckResult.ofSources (Exemptions.ofStrings (given.excludes ++ a.excludes))
          (a.sources look read)) := by
  obtain ⟨given, hgiven, hoptions⟩ := options_eq_ok_of_not_rejected h
  exact ⟨given, hgiven, by simp only [Arguments.check, hoptions]; rfl⟩

/-- A check with readable options ends in one of three ways. -/
theorem check_cases {a : Arguments} (h : ¬ a.Rejected) : ∃ given, a.Gives given ∧
    let e := Exemptions.ofStrings (given.excludes ++ a.excludes)
    let sources := a.sources look read
    let o := a.check look read
    ((∀ s ∈ sources, s.Clean e) ∧ CaretsFit e sources ∧ o.status = .success ∧
      o.out = Report.success (a.scan look).files.length ++ [plain "\n"]) ∨
    ((¬ ∀ s ∈ sources, s.Clean e) ∧ CaretsFit e sources ∧ o.status = .failure ∧
      ∃ blocks, o.out = blocks ++ Report.summary (problems e sources)) ∨
    ((¬ ∀ s ∈ sources, s.Clean e) ∧ ¬ CaretsFit e sources ∧ o.status = .aborted ∧ o.out = []) := by
  obtain ⟨given, hgiven, hcheck⟩ := check_of_not_rejected look read h
  refine ⟨given, hgiven, ?_⟩
  intro e sources o
  have hlength : sources.length = (a.scan look).files.length := List.length_map _
  by_cases hclean : ∀ s ∈ sources, s.Clean e
  · have ho := Outcome.ofResult_of_clean hclean a.verbose (given.withExcludes a.excludes)
      (a.scan look)
    rw [← hcheck, hlength] at ho
    exact .inl ⟨hclean, caretsFit_of_clean hclean, ho⟩
  · by_cases hfit : CaretsFit e sources
    · have ho := Outcome.ofResult_of_fit hclean hfit a.verbose (given.withExcludes a.excludes)
        (a.scan look)
      rw [← hcheck] at ho
      exact .inr (.inl ⟨hclean, hfit, ho⟩)
    · have ho := Outcome.ofResult_of_not_fit hfit a.verbose (given.withExcludes a.excludes)
        (a.scan look)
      rw [← hcheck] at ho
      exact .inr (.inr ⟨hclean, hfit, ho⟩)

theorem check_verbose (verbose : Bool) :
    (Arguments.check { a with verbose } look read).status = (a.check look read).status ∧
      (Arguments.check { a with verbose } look read).out = (a.check look read).out := by
  have hoptions : Arguments.options { a with verbose } = a.options := rfl
  have hscan : Arguments.scan { a with verbose } look = a.scan look := rfl
  unfold Arguments.check
  rw [hoptions, hscan]
  cases a.options with
  | error message => exact ⟨rfl, rfl⟩
  | ok options => exact Outcome.ofResult_verbose _ _ _ _ _

end Check

/-- How a check ends, and what it writes to standard output. It ends with 2 exactly if its options
text cannot be read, and then writes nothing. Otherwise the exemptions are the excludes of the text
followed by those of the flags; it ends with 0 exactly if all files found are clean, and then writes
how many files these are. Where some file is not clean it ends with 1 and writes a report whose last
line counts the problems, exactly if all carets of the report can be placed; if one cannot, it
breaks off with 101 and writes nothing. Being verbose changes none of this. -/
theorem check_exit_and_stdout (a : Arguments) (look : String → Option FileTree)
    (read : String → Except FileError String) (color : Bool) :
    let out : Arguments → Output := fun a => .ofOutcome color (a.check look read)
    ((out a).exit = 2 ↔ a.Rejected) ∧ ((out a).exit = 2 → (out a).stdout = "") ∧
    (¬ a.Rejected → ∃ given, a.Gives given ∧
      let e := Exemptions.ofStrings (given.excludes ++ a.excludes)
      let sources := a.sources look read
      ((out a).exit = 0 ↔ ∀ s ∈ sources, s.Clean e) ∧
      ((out a).exit = 0 → (out a).stdout =
        Styled.render color (Report.success (a.scan look).files.length ++ [plain "\n"])) ∧
      ((out a).exit = 1 ↔ (¬ ∀ s ∈ sources, s.Clean e) ∧ CaretsFit e sources) ∧
      ((out a).exit = 1 → ∃ blocks,
        (out a).stdout = blocks ++ Styled.render color (Report.summary (problems e sources))) ∧
      ((out a).exit = 101 ↔ ¬ CaretsFit e sources) ∧
      ((out a).exit = 101 → (out a).stdout = "")) ∧
    ∀ verbose, (out { a with verbose }).exit = (out a).exit ∧
      (out { a with verbose }).stdout = (out a).stdout := by
  intro out
  refine ⟨?_, ?_, fun h => ?_, fun verbose => ?_⟩
  · by_cases h : a.Rejected
    · simp [out, Output.ofOutcome, check_of_rejected look read h, ExitStatus.code, h]
    · obtain ⟨given, -, hcases⟩ := check_cases look read h
      rcases hcases with ⟨-, -, hs, -⟩ | ⟨-, -, hs, -⟩ | ⟨-, -, hs, -⟩ <;>
        simp [out, Output.ofOutcome, hs, ExitStatus.code, h]
  · intro hexit
    by_cases h : a.Rejected
    · simp [out, Output.ofOutcome, check_of_rejected look read h, Styled.render]
    · obtain ⟨given, -, hcases⟩ := check_cases look read h
      rcases hcases with ⟨-, -, hs, -⟩ | ⟨-, -, hs, -⟩ | ⟨-, -, hs, -⟩ <;>
        simp [out, Output.ofOutcome, hs, ExitStatus.code] at hexit
  · obtain ⟨given, hgiven, hcases⟩ := check_cases look read h
    refine ⟨given, hgiven, ?_⟩
    intro e sources
    rcases hcases with ⟨hclean, hfit, hs, ho⟩ | ⟨hclean, hfit, hs, blocks, ho⟩ |
      ⟨hclean, hfit, hs, ho⟩
    · simpa [out, Output.ofOutcome, hs, ho, ExitStatus.code, e, sources, hfit] using hclean
    · simp [out, Output.ofOutcome, hs, ho, ExitStatus.code, e, sources, hclean, hfit,
        Styled.render_append]
    · simp [out, Output.ofOutcome, hs, ho, ExitStatus.code, e, sources, hclean, hfit,
        Styled.render]
  · obtain ⟨hs, ho⟩ := check_verbose a look read verbose
    simp [out, Output.ofOutcome, hs, ho]

end ProseLint
