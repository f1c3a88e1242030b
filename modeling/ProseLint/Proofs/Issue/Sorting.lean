import ProseLint.Proofs.Command.Ending
import ProseLint.Proofs.Issue.Order

/-!
# Issues are sorted stably

Issues are sorted twice, when files are checked and again when a report is printed. What a sort
gives is determined by the laws of the comparison: issues can be put in the order of reports, with
those that tie as they were, in exactly one way (`sortsInto_iff`). So the second sort finds the
issues of checked files in order and leaves them as they are. The laws hold for issues with and
without a place alike (`cmp_english_unparsed`): one without a place counts as line and column zero,
and where one with a place is there too, that one comes first.
-/

namespace ProseLint

namespace Issue

theorem cmp_eq_cmp_of_eq {a b : Issue} (h : cmp a b = .eq) (c : Issue) : cmp a c = cmp b c :=
  Std.TransCmp.congr_left h

/-- Within a file, an issue without a place comes before all those with a place, except those at
line and column zero. -/
theorem cmp_english_unparsed (place : SourcePlace) (text : String) (position : Position)
    (file error : String) :
    cmp (.english place text position) (.unparsed file error) =
      (compare place.file file).then (if place.line = 0 ∧ place.col = 0 then .lt else .gt) := by
  obtain ⟨name, line, col, sourceLine⟩ := place
  cases line with
  | zero => cases col <;> rfl
  | succ line => rfl

/-! ## Stable sorts -/

/-- The second list has the issues of the first in the order of reports, and those that tie in the
order in which they were. -/
structure SortsInto (issues ordered : List Issue) : Prop where
  perm : ordered.Perm issues
  pairwise : ordered.Pairwise (le · ·)
  filter_ties : ∀ a, ordered.filter (ties a) = issues.filter (ties a)

theorem sortsInto_sorted (issues : List Issue) : SortsInto issues (sorted issues) where
  perm := sorted_perm issues
  pairwise := pairwise_sorted issues
  filter_ties a := filter_ties_sorted a issues

theorem sortsInto_iff {issues ordered : List Issue} :
    SortsInto issues ordered ↔ ordered = sorted issues := by
  constructor
  · intro h
    -- both are sorted permutations with the same order of ties, and there is only one of them
    have hsorted := sortsInto_sorted issues
    refine eq_of_perm_of_pairwise (h.perm.trans hsorted.perm.symm) h.pairwise hsorted.pairwise ?_
    intro a
    rw [h.filter_ties a, hsorted.filter_ties a]
  · rintro rfl
    exact sortsInto_sorted issues

theorem sorted_of_pairwise {issues : List Issue} (h : issues.Pairwise (le · ·)) :
    sorted issues = issues :=
  (sortsInto_iff.1 ⟨.refl issues, h, fun _ => rfl⟩).symm

end Issue

/-! ## The issues of files and of reports -/

theorem CheckResult.sortsInto_issues (e : Exemptions) (sources : List Source) :
    Issue.SortsInto (sources.flatMap (checkFile e)) (ofSources e sources).issues := by
  rw [issues, flatten_perFile]
  exact Issue.sortsInto_sorted _

/-- The report that names issues in the order in which they are given. -/
def Report.ofOrdered (issues : List Issue) : Styled :=
  issues.flatMap (issueLines (gutterWidth issues)) ++ summary issues.length

theorem Report.ofIssues_eq_of_sortsInto {issues ordered : List Issue}
    (h : Issue.SortsInto issues ordered) : ofIssues issues = ofOrdered ordered := by
  rw [Issue.sortsInto_iff.1 h]
  rfl

theorem Report.ofIssues_of_pairwise {issues : List Issue} (h : issues.Pairwise (Issue.le · ·)) :
    ofIssues issues = ofOrdered issues :=
  ofIssues_eq_of_sortsInto (Issue.sortsInto_iff.2 (Issue.sorted_of_pairwise h).symm)

/-- The comparison of issues is a total preorder, also where an issue without a place, which counts
as line and column zero, meets one that is there. So there is exactly one way to sort issues and to
keep those that tie in their order. That is how the issues of checked files and those of a report
are sorted, and the report of checked files finds them sorted. -/
theorem cmp_preorder_and_sorts_stable :
    (∀ a b : Issue, Issue.cmp b a = (Issue.cmp a b).swap) ∧
    (∀ a b c : Issue, (Issue.cmp a b).isLE → (Issue.cmp b c).isLE → (Issue.cmp a c).isLE) ∧
    (∀ a b c : Issue, Issue.cmp a b = .eq → Issue.cmp a c = Issue.cmp b c) ∧
    (∀ place text position file error,
      Issue.cmp (.english place text position) (.unparsed file error) =
        (compare place.file file).then (if place.line = 0 ∧ place.col = 0 then .lt else .gt)) ∧
    (∀ issues ordered, Issue.SortsInto issues ordered ↔ ordered = Issue.sorted issues) ∧
    (∀ e sources,
      Issue.SortsInto (sources.flatMap (checkFile e)) (CheckResult.ofSources e sources).issues) ∧
    (∀ issues ordered, Issue.SortsInto issues ordered →
      Report.ofIssues issues = Report.ofOrdered ordered) ∧
    (∀ issues, issues.Pairwise (fun a b => (Issue.cmp a b).isLE) →
      Issue.sorted issues = issues ∧ Report.ofIssues issues = Report.ofOrdered issues) ∧
    ∀ e sources, let issues := (CheckResult.ofSources e sources).issues
      Issue.sorted issues = issues ∧ Report.ofIssues issues = Report.ofOrdered issues := by
  refine ⟨Issue.cmp_swap, Issue.le_trans, fun a b c h => Issue.cmp_eq_cmp_of_eq h c,
    Issue.cmp_english_unparsed, fun issues ordered => Issue.sortsInto_iff,
    CheckResult.sortsInto_issues, fun issues ordered h => Report.ofIssues_eq_of_sortsInto h, ?_, ?_⟩
  · intro issues h
    exact ⟨Issue.sorted_of_pairwise h, Report.ofIssues_of_pairwise h⟩
  · intro e sources
    have hpairwise := (CheckResult.sortsInto_issues e sources).pairwise
    exact ⟨Issue.sorted_of_pairwise hpairwise, Report.ofIssues_of_pairwise hpairwise⟩

/-- Text at line and column zero. -/
def textAtZero : Issue := .english ⟨"a.js", 0, 0, "x = \"Some text\""⟩ "Some text" .assignment

/-- The same text at the same place, but as an argument. -/
def argumentAtZero : Issue := .english ⟨"a.js", 0, 0, "f(\"Some text\")"⟩ "Some text" .callArgument

/-- The file of the text, not parsed. -/
def unparsedAtZero : Issue := .unparsed "a.js" "Failed to parse"

/-- Text behind column zero. -/
def textBehindZero : Issue := .english ⟨"a.js", 0, 1, "x = \"Some text\""⟩ "Some text" .assignment

theorem cmp_preorder_and_sorts_stable_atZero :
    (Issue.cmp textAtZero argumentAtZero = .eq ∧
      Issue.cmp textAtZero unparsedAtZero = Issue.cmp argumentAtZero unparsedAtZero) ∧
    ((Issue.cmp textAtZero unparsedAtZero).isLE ∧ (Issue.cmp unparsedAtZero textBehindZero).isLE ∧
      (Issue.cmp textAtZero textBehindZero).isLE) ∧
    let issues := [argumentAtZero, textAtZero, unparsedAtZero, textBehindZero]
    Issue.SortsInto issues issues ∧ Issue.sorted issues = issues ∧
      Report.ofIssues issues = Report.ofOrdered issues := by
  obtain ⟨-, htrans, hcongr, -, hsorts, -, hreport, hsorted, -⟩ := cmp_preorder_and_sorts_stable
  have hties : Issue.cmp textAtZero argumentAtZero = .eq := by decide
  have hfirst : (Issue.cmp textAtZero unparsedAtZero).isLE := by decide
  have hsecond : (Issue.cmp unparsedAtZero textBehindZero).isLE := by decide
  have hlist := (hsorted [argumentAtZero, textAtZero, unparsedAtZero, textBehindZero]
    (by decide)).1
  have hinto := (hsorts _ _).2 hlist.symm
  exact ⟨⟨hties, hcongr _ _ _ hties⟩, ⟨hfirst, hsecond, htrans _ _ _ hfirst hsecond⟩, hinto, hlist,
    hreport _ _ hinto⟩

end ProseLint
