import ProseLint.Proofs.Check.SourceOrder
import ProseLint.Proofs.Report.Rows

/-!
# When a report does not depend on the order of its issues

Issues are sorted before they are printed, but the comparison does not see everything that is
printed: neither the source line of an issue nor its position. Issues that differ only there stay in
the order in which they are given, and their report changes with it. This is the only way in which
the order of the issues gets into a report (`report_depends_on_issues_alone_iff`). The issues of
checked files never differ only there, since no two violations of a file have the same place.
-/

namespace ProseLint

open ProseLint.Syntax
open Issue (DistinctOutlines)

namespace Report

theorem ofIssues?_eq_of_perm {issues others : List Issue} (hperm : others.Perm issues)
    (h : DistinctOutlines issues) : ofIssues? others = ofIssues? issues := by
  unfold ofIssues? ofIssues
  rw [hperm.all_eq, Issue.sorted_eq_of_perm hperm h]

/-! ## Different rows -/

/-- The source line that the issue shows, if it shows one, is a single line. -/
def ShowsOneLine (i : Issue) : Prop := ∀ place ∈ i.place?, '\n' ∉ place.sourceLine.toList

instance (i : Issue) : Decidable (ShowsOneLine i) :=
  inferInstanceAs (Decidable (∀ place ∈ i.place?, _))

theorem line_eq_of_append_eq {line line' rest rest' : List Char} (h : '\n' ∉ line)
    (h' : '\n' ∉ line') (heq : line ++ '\n' :: rest = line' ++ '\n' :: rest') :
    line = line' ∧ rest = rest' := by
  have hline := congrArg Location.lineText heq
  rw [Location.lineText_append h, Location.lineText_append h'] at hline
  obtain rfl : line = line' := by simpa [Location.lineText] using hline
  exact ⟨rfl, by simpa using heq⟩

theorem position_eq_of_append_eq {p q : Position} {rest rest' : List Char}
    (h : p.describe.toList ++ rest = q.describe.toList ++ rest') : p = q := by
  cases p <;> cases q <;> simp_all [Position.describe]

/-- The rows of an issue with a place: what is above its source line is that of its outline, and the
position is named in the end. -/
theorem exists_rowsText_english (gutter : Nat) (file text : String) (line col : Nat) :
    ∃ (above : List Char) (caret : String → List Char), ∀ sourceLine position,
      (rowsText (issueRows gutter (.english ⟨file, line, col, sourceLine⟩ text position))).toList =
        above ++ (sourceLine.toList ++ '\n' :: (caret sourceLine ++
          (position.describe.toList ++ [')', '\n', '\n']))) := by
  let above := rowsText
    [.full ("error: \"" ++ text ++ "\"  no-en"),
     .full ("  --> " ++ file ++ ":" ++ toString line ++ ":" ++ toString col),
     .guttered (blanks gutter) '|' ""] ++ padLeft gutter (toString line) ++ " | "
  let caret (sourceLine : String) :=
    rowsText [.guttered (blanks gutter) '|'
      (" " ++ blanks (caretPadding ⟨file, line, col, sourceLine⟩) ++ "^")] ++
    blanks gutter ++ " = note: " ++ ruleMessage ++ " (in "
  refine ⟨above.toList, fun sourceLine => (caret sourceLine).toList, fun sourceLine position => ?_⟩
  simp [above, caret, rowsText, Row.text, issueRows, placeRows, placeSuffix, Issue.place?,
    Issue.details?, Issue.message, Issue.rule, Issue.file, Rule.name]

/-- Of two issues with the same outline, the rows show which is which. -/
theorem eq_of_rowsText_append_eq {gutter : Nat} {a b : Issue} (houtline : a.outline = b.outline)
    (ha : ShowsOneLine a) (hb : ShowsOneLine b) {rest rest' : String}
    (h : rowsText (issueRows gutter a) ++ rest = rowsText (issueRows gutter b) ++ rest') :
    a = b := by
  cases a with
  | unparsed file error =>
    cases b with
    | unparsed file' error' => exact houtline
    | english place text position => cases houtline
  | english place text position =>
    cases b with
    | unparsed file error => cases houtline
    | english place' text' position' =>
      have hline := ha place rfl
      have hline' := hb place' rfl
      obtain ⟨file, line, col, sourceLine⟩ := place
      obtain ⟨file', line', col', sourceLine'⟩ := place'
      simp only [Issue.outline, Issue.english.injEq, SourcePlace.mk.injEq] at houtline
      obtain ⟨⟨rfl, rfl, rfl, -⟩, rfl, -⟩ := houtline
      -- above the source line both are the same, and the line ends with the first line feed
      obtain ⟨above, caret, htext⟩ := exists_rowsText_english gutter file text line col
      rw [← String.toList_inj, String.toList_append, String.toList_append, htext, htext] at h
      simp only [List.append_assoc, List.cons_append, List.append_cancel_left_eq] at h
      obtain ⟨hsource, hbelow⟩ := line_eq_of_append_eq hline hline' h
      obtain rfl := String.toList_inj.1 hsource
      rw [position_eq_of_append_eq (List.append_cancel_left hbelow)]

theorem eq_of_rowsText_flatMap_eq {gutter : Nat} {l m : List Issue} {rest rest' : String}
    (houtlines : l.map Issue.outline = m.map Issue.outline) (hl : ∀ i ∈ l, ShowsOneLine i)
    (hm : ∀ i ∈ m, ShowsOneLine i)
    (h : rowsText (l.flatMap (issueRows gutter)) ++ rest =
      rowsText (m.flatMap (issueRows gutter)) ++ rest') : l = m := by
  induction l generalizing m with
  | nil =>
    rw [List.map_nil] at houtlines
    exact (List.map_eq_nil_iff.1 houtlines.symm).symm
  | cons a l ih =>
    cases m with
    | nil => cases houtlines
    | cons b m =>
      obtain ⟨hhead, htail⟩ := List.cons.inj houtlines
      rw [List.forall_mem_cons] at hl hm
      rw [List.flatMap_cons, List.flatMap_cons, rowsText_append, rowsText_append,
        String.append_assoc, String.append_assoc] at h
      obtain rfl := eq_of_rowsText_append_eq hhead hl.1 hm.1 h
      rw [String.append_right_inj] at h
      rw [ih htail hl.2 hm.2 h]

/-- Reports of the same issues in another order are different if they name them in another order. -/
theorem sorted_eq_of_render_eq {issues others : List Issue} (hperm : others.Perm issues)
    (hlines : ∀ i ∈ issues, ShowsOneLine i)
    (h : Styled.render false (ofIssues others) = Styled.render false (ofIssues issues)) :
    Issue.sorted others = Issue.sorted issues := by
  have hwidth : gutterWidth (Issue.sorted others) = gutterWidth (Issue.sorted issues) := by
    rw [gutterWidth_sorted, gutterWidth_sorted, largestLine_eq_of_perm hperm]
  rw [render_ofIssues, render_ofIssues, hwidth, rows, rows, rowsText_append, rowsText_append] at h
  refine eq_of_rowsText_flatMap_eq (Issue.map_outline_sorted hperm) ?_ ?_ h
  · intro i hi
    exact hlines i (((Issue.sorted_perm others).trans hperm).mem_iff.1 hi)
  · intro i hi
    exact hlines i ((Issue.sorted_perm issues).mem_iff.1 hi)

/-- Without colours, the report of issues that show single lines depends on the issues alone exactly
if different issues have different outlines. -/
theorem forall_render_eq_iff {issues : List Issue} (hlines : ∀ i ∈ issues, ShowsOneLine i) :
    (∀ others, others.Perm issues →
      Styled.render false (ofIssues others) = Styled.render false (ofIssues issues)) ↔
      DistinctOutlines issues := by
  rw [← Issue.forall_sorted_eq_iff]
  refine forall₂_congr fun others hperm => ⟨sorted_eq_of_render_eq hperm hlines, fun h => ?_⟩
  unfold ofIssues
  rw [h]

end Report

/-! ## The issues of files -/

/-- Different issues of a file have different outlines. -/
theorem distinctOutlines_checkFile (e : Exemptions) (s : Source) :
    DistinctOutlines (checkFile e s) := by
  intro a ha b hb hab
  unfold checkFile at ha hb
  cases hcontent : s.content with
  | error error =>
    simp only [hcontent, List.mem_singleton] at ha hb
    rw [ha, hb]
  | ok text =>
    simp only [hcontent, checkSource] at ha hb
    cases hparse : Program.parse (Path.dialect s.path) text.toList with
    | error error =>
      simp only [hparse, List.mem_singleton] at ha hb
      rw [ha, hb]
    | ok tree =>
      simp only [hparse] at ha hb
      obtain ⟨v, hv, rfl⟩ := List.mem_map.1 ha
      obtain ⟨w, hw, rfl⟩ := List.mem_map.1 hb
      rw [eq_of_ties_issueOf hparse hv hw (Issue.ties_iff_outline_eq.2 hab)]

theorem distinctOutlines_ofPaths (e : Exemptions) (read : String → Except FileError String)
    (paths : List String) : DistinctOutlines (CheckResult.ofPaths e read paths).issues := by
  intro a ha b hb hab
  rw [CheckResult.issues_ofPaths, (Issue.sorted_perm _).mem_iff] at ha hb
  obtain ⟨path, -, ha⟩ := List.mem_flatMap.1 ha
  obtain ⟨path', -, hb⟩ := List.mem_flatMap.1 hb
  -- issues with the same outline are of one file
  have hfile : a.file = b.file := Issue.file_eq_of_ties (Issue.ties_iff_outline_eq.2 hab)
  obtain rfl : path = path' :=
    (file_of_mem_checkFile ha).symm.trans (hfile.trans (file_of_mem_checkFile hb))
  exact distinctOutlines_checkFile e _ a ha b hb hab

/-- The comparison of issues takes as equal those that differ at most in their source line and their
position. So the sorted list depends on the issues alone, and not on the order in which they are
given, exactly if different issues differ in more than that; the same holds of the text of their
report, if it can be printed and shows single lines. The issues of checked files always do. -/
theorem report_depends_on_issues_alone_iff (issues : List Issue) :
    (∀ a b : Issue, Issue.cmp a b = .eq ↔ a.outline = b.outline) ∧
    ((∀ others, others.Perm issues → Issue.sorted others = Issue.sorted issues) ↔
      DistinctOutlines issues) ∧
    (DistinctOutlines issues → ∀ others, others.Perm issues →
      Report.ofIssues? others = Report.ofIssues? issues) ∧
    ((∀ i ∈ issues, Report.fits i) → (∀ i ∈ issues, Report.ShowsOneLine i) →
      ((∀ others, others.Perm issues → (Report.ofIssues? others).map (Styled.render false) =
        (Report.ofIssues? issues).map (Styled.render false)) ↔ DistinctOutlines issues)) ∧
    ∀ (e : Exemptions) (read : String → Except FileError String) (paths : List String),
      DistinctOutlines (CheckResult.ofPaths e read paths).issues := by
  refine ⟨fun a b => Issue.cmp_eq_iff, Issue.forall_sorted_eq_iff, ?_, ?_,
    distinctOutlines_ofPaths⟩
  · intro h others hperm
    exact Report.ofIssues?_eq_of_perm hperm h
  · intro hfits hlines
    have hprinted {others : List Issue} (hperm : others.Perm issues) :
        Report.ofIssues? others = some (Report.ofIssues others) :=
      Report.ofIssues?_of_all_fits (List.all_eq_true.2 fun i hi => hfits i (hperm.mem_iff.1 hi))
    rw [← Report.forall_render_eq_iff hlines]
    refine forall₂_congr fun others hperm => ?_
    rw [hprinted hperm, hprinted (List.Perm.refl issues), Option.map_some, Option.map_some,
      Option.some_inj]

/-- Text that is assigned. -/
def assignedText : Issue :=
  .english ⟨"a.js", 1, 5, "x = \"Some text\""⟩ "Some text" .assignment

/-- A file that was not parsed, next to the file of the text. -/
def twoFiles : List Issue := [assignedText, .unparsed "b.js" "Failed to parse"]

theorem report_depends_on_issues_alone_iff_twoFiles :
    DistinctOutlines twoFiles ∧ Issue.sorted twoFiles.reverse = Issue.sorted twoFiles ∧
    Report.ofIssues? twoFiles.reverse = Report.ofIssues? twoFiles ∧
    (Report.ofIssues? twoFiles.reverse).map (Styled.render false) =
      (Report.ofIssues? twoFiles).map (Styled.render false) := by
  have hdistinct : DistinctOutlines twoFiles := by decide
  have hperm : twoFiles.reverse.Perm twoFiles := List.reverse_perm twoFiles
  obtain ⟨-, hsorted, hreport, hprinted, -⟩ := report_depends_on_issues_alone_iff twoFiles
  exact ⟨hdistinct, hsorted.2 hdistinct _ hperm, hreport hdistinct _ hperm,
    (hprinted (by decide +kernel) (by decide)).2 hdistinct _ hperm⟩

/-- The same text at the same place, but as an argument. -/
def passedText : Issue :=
  .english ⟨"a.js", 1, 5, "x = \"Some text\""⟩ "Some text" .callArgument

/-- Two issues that differ in their position are compared as equal, and which is given first is also
the first in the report. -/
theorem render_tied_ne_render_swapped :
    Issue.cmp assignedText passedText = .eq ∧ assignedText ≠ passedText ∧
    [passedText, assignedText].Perm [assignedText, passedText] ∧
    Issue.sorted [passedText, assignedText] ≠ Issue.sorted [assignedText, passedText] ∧
    (Report.ofIssues? [passedText, assignedText]).map (Styled.render false) ≠
      (Report.ofIssues? [assignedText, passedText]).map (Styled.render false) := by
  have hsorted (a b : Issue) (h : Issue.le a b) : Issue.sorted [a, b] = [a, b] :=
    List.mergeSort_of_pairwise (by simpa using h)
  have hne : Issue.sorted [passedText, assignedText] ≠ Issue.sorted [assignedText, passedText] := by
    rw [hsorted _ _ (by decide), hsorted _ _ (by decide)]
    decide
  have hperm : [passedText, assignedText].Perm [assignedText, passedText] := .swap ..
  refine ⟨by decide, by decide, hperm, hne, fun h => hne ?_⟩
  rw [Report.ofIssues?_of_all_fits (by decide +kernel),
    Report.ofIssues?_of_all_fits (by decide +kernel)] at h
  exact Report.sorted_eq_of_render_eq hperm (by decide) (Option.some.inj h)

end ProseLint
