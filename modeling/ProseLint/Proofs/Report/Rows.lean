import Mathlib.Data.Nat.Log
import ProseLint.Proofs.Issue.Order
import ProseLint.Proofs.Report.Caret

/-!
# The rows of a report

Without colours, a report is one row after the other (`render_ofIssues`). The rows that show a place
or a note begin with a margin, and a bar or an equals sign stands one blank behind it. One width is
computed from all issues and every margin is padded to it. No line number is longer than that of the
largest, since decimal length grows with the number (`length_toString`), so no margin overflows and
all signs stand in one column (`gutter_aligned`).
-/

namespace ProseLint.Report

/-- A line of a report. -/
inductive Row where
  /-- A line that begins at the edge. -/
  | full (text : String)
  /-- A line whose content stands behind a margin and a sign. -/
  | guttered (margin : String) (sign : Char) (content : String)
deriving Repr, DecidableEq

/-- A row as it is printed. -/
def Row.text : Row → String
  | full text => text ++ "\n"
  | guttered margin sign content => margin ++ " " ++ String.singleton sign ++ content ++ "\n"

/-- Some rows as they are printed. -/
def rowsText (rows : List Row) : String := String.join (rows.map Row.text)

theorem rowsText_append (rows others : List Row) :
    rowsText (rows ++ others) = rowsText rows ++ rowsText others := by
  simp [rowsText, String.join_append]

/-- The rows that show a place: an empty one, the numbered source line, and the caret. -/
def placeRows (gutter : Nat) (place : SourcePlace) : List Row :=
  [.guttered (blanks gutter) '|' "",
   .guttered (padLeft gutter (toString place.line)) '|' (" " ++ place.sourceLine),
   .guttered (blanks gutter) '|' (" " ++ blanks (caretPadding place) ++ "^")]

/-- The rows of an issue; one without a place has no rows with a margin. -/
def issueRows (gutter : Nat) (i : Issue) : List Row :=
  [.full ("error: \"" ++ i.message ++ "\"  " ++ i.rule.name),
   .full ("  --> " ++ i.file ++ placeSuffix i.place?)] ++
  (i.place?.map (placeRows gutter)).getD [] ++
  i.details?.toList.map (fun details => .guttered (blanks gutter) '=' (" note: " ++ details)) ++
  [.full ""]

/-- The rows that count the problems, if there are any. -/
def summaryRows (total : Nat) : List Row :=
  if total == 0 then []
  else [.full "", .full ("✘ " ++ toString total ++ " " ++ counted total "problem" "problems")]

/-- The rows of a report that names some issues in this order. -/
def rows (gutter : Nat) (ordered : List Issue) : List Row :=
  ordered.flatMap (issueRows gutter) ++ summaryRows ordered.length

/-! ## A report is its rows -/

theorem rowsText_placeRows (gutter : Nat) (place : SourcePlace) :
    rowsText (placeRows gutter place) = placeText gutter place (caretPadding place) := by
  rw [← String.toList_inj]
  simp [rowsText, placeRows, placeText, Row.text]

theorem render_issueLines (gutter : Nat) (i : Issue) :
    Styled.render false (issueLines gutter i) = rowsText (issueRows gutter i) := by
  have hplace (place : SourcePlace) :
      Styled.render false (placeLines gutter place) = rowsText (placeRows gutter place) :=
    (render_placeLines gutter place).trans (rowsText_placeRows gutter place).symm
  cases i <;>
    simp only [issueLines, issueRows, Issue.place?, Issue.details?, Option.map_some,
      Option.map_none, Option.getD_some, Option.getD_none, Styled.render_append, rowsText_append,
      hplace] <;>
    rw [← String.toList_inj] <;>
    simp [rowsText, Row.text, Styled.render, Styled.renderSegment, Styled.plain, Styled.styled,
      padLeft_empty]

theorem render_summary (total : Nat) :
    Styled.render false (summary total) = rowsText (summaryRows total) := by
  unfold summary summaryRows
  split
  · rfl
  · rw [← String.toList_inj]
    simp [rowsText, Row.text, Styled.render, Styled.renderSegment, Styled.plain, Styled.styled]

theorem render_flatMap_issueLines (gutter : Nat) (issues : List Issue) :
    Styled.render false (issues.flatMap (issueLines gutter)) =
      rowsText (issues.flatMap (issueRows gutter)) := by
  induction issues with
  | nil => rfl
  | cons i issues ih =>
    rw [List.flatMap_cons, List.flatMap_cons, Styled.render_append, rowsText_append, ih,
      render_issueLines]

/-- A report without colours is the text of its rows. -/
theorem render_ofIssues (issues : List Issue) :
    Styled.render false (ofIssues issues) =
      rowsText (rows (gutterWidth (Issue.sorted issues)) (Issue.sorted issues)) := by
  unfold ofIssues rows
  rw [Styled.render_append, rowsText_append, render_flatMap_issueLines, render_summary]

/-! ## Margins -/

/-- A number has one decimal digit more than its logarithm. -/
theorem length_toString (n : Nat) : (toString n).length = Nat.log 10 n + 1 := by
  rw [Nat.toString_eq_repr, Nat.repr_eq_ofList_toDigits, String.length_ofList]
  -- the library bounds the number of digits by powers of the base, and so the logarithm
  apply Nat.le_antisymm
  · rw [Nat.length_toDigits_le_iff (by decide) (Nat.succ_pos _)]
    exact Nat.lt_pow_succ_log_self (by decide) n
  · have hpos : 0 < (Nat.toDigits 10 n).length := Nat.length_toDigits_pos
    have hlt : n < 10 ^ (Nat.toDigits 10 n).length :=
      (Nat.length_toDigits_le_iff (by decide) hpos).1 (Nat.le_refl _)
    exact Nat.log_lt_of_lt_pow' (Nat.ne_of_gt hpos) hlt

/-- The largest line number of some issues, zero if none has a line. -/
def largestLine (issues : List Issue) : Nat := (issues.filterMap Issue.line?).max?.getD 0

theorem le_largestLine {issues : List Issue} {i : Issue} {line : Nat} (hi : i ∈ issues)
    (hline : i.line? = some line) : line ≤ largestLine issues :=
  List.le_max?_getD_of_mem (List.mem_filterMap.2 ⟨i, hi, hline⟩)

theorem largestLine_le_of_subset {issues others : List Issue} (h : issues ⊆ others) :
    largestLine issues ≤ largestLine others := by
  unfold largestLine
  cases hmax : (issues.filterMap Issue.line?).max? with
  | none => exact Nat.zero_le _
  | some line =>
    obtain ⟨i, hi, hline⟩ := List.mem_filterMap.1 (List.max?_mem hmax)
    exact le_largestLine (h hi) hline

theorem largestLine_eq_of_perm {issues others : List Issue} (h : issues.Perm others) :
    largestLine issues = largestLine others :=
  Nat.le_antisymm (largestLine_le_of_subset h.subset) (largestLine_le_of_subset h.symm.subset)

theorem gutterWidth_eq (issues : List Issue) :
    gutterWidth issues = Nat.log 10 (largestLine issues) + 1 := by
  unfold gutterWidth largestLine
  cases (issues.filterMap Issue.line?).max? with
  | none => rfl
  | some line => exact length_toString line

/-- The gutter is as wide as the largest line number of all issues is long, in whatever order they
are. -/
theorem gutterWidth_sorted (issues : List Issue) :
    gutterWidth (Issue.sorted issues) = Nat.log 10 (largestLine issues) + 1 := by
  rw [gutterWidth_eq, largestLine_eq_of_perm (Issue.sorted_perm issues)]

theorem length_toString_le {issues : List Issue} {i : Issue} {line : Nat} (hi : i ∈ issues)
    (hline : i.line? = some line) :
    (toString line).length ≤ Nat.log 10 (largestLine issues) + 1 := by
  rw [length_toString]
  exact Nat.succ_le_succ (Nat.log_mono_right (le_largestLine hi hline))

theorem length_blanks (n : Nat) : (blanks n).length = n := by
  simp [blanks]

theorem length_padLeft {width : Nat} {text : String} (h : text.length ≤ width) :
    (padLeft width text).length = width := by
  simp only [padLeft, String.length_append, String.length_ofList, List.length_replicate]
  omega

/-- Where the line number of an issue fits into the gutter, its rows fill all their margins. -/
theorem length_margin_issueRows {gutter : Nat} {i : Issue} {margin content : String} {sign : Char}
    (hfits : ∀ line, i.line? = some line → (toString line).length ≤ gutter)
    (h : .guttered margin sign content ∈ issueRows gutter i) :
    margin.length = gutter ∧ (sign = '|' ∨ sign = '=') := by
  cases i with
  | unparsed file error => simp [issueRows, Issue.place?, Issue.details?] at h
  | english place text position =>
    have hnumber := length_padLeft (hfits place.line rfl)
    simp only [issueRows, Issue.place?, Issue.details?, placeRows, Option.map_some,
      Option.getD_some, Option.toList_some, List.map_cons, List.map_nil, List.cons_append,
      List.nil_append, List.mem_cons, List.not_mem_nil, Row.guttered.injEq, reduceCtorEq,
      or_false, false_or] at h
    rcases h with ⟨rfl, rfl, -⟩ | ⟨rfl, rfl, -⟩ | ⟨rfl, rfl, -⟩ | ⟨rfl, rfl, -⟩
    · exact ⟨length_blanks gutter, .inl rfl⟩
    · exact ⟨hnumber, .inl rfl⟩
    · exact ⟨length_blanks gutter, .inl rfl⟩
    · exact ⟨length_blanks gutter, .inr rfl⟩

/-- All margins of a report are as wide as the largest line number of its issues is long, and no
line number is longer. -/
theorem gutter_aligned (issues : List Issue) :
    let width := Nat.log 10 (largestLine issues) + 1
    (∀ report, ofIssues? issues = some report →
      Styled.render false report = rowsText (rows width (Issue.sorted issues))) ∧
    (∀ margin sign content, .guttered margin sign content ∈ rows width (Issue.sorted issues) →
      margin.length = width ∧ (sign = '|' ∨ sign = '=')) ∧
    ∀ i ∈ issues, ∀ line, i.line? = some line → (toString line).length ≤ width := by
  intro width
  refine ⟨?_, ?_, fun i hi line hline => length_toString_le hi hline⟩
  · intro report hreport
    rw [eq_ofIssues_of_ofIssues? hreport, render_ofIssues, gutterWidth_sorted]
  · intro margin sign content hrow
    rcases List.mem_append.1 hrow with hrow | hrow
    · obtain ⟨i, hi, hrow⟩ := List.mem_flatMap.1 hrow
      have hmem : i ∈ issues := (Issue.sorted_perm issues).mem_iff.1 hi
      exact length_margin_issueRows (fun line hline => length_toString_le hmem hline) hrow
    · unfold summaryRows at hrow
      split at hrow <;> simp at hrow

/-- Issues with a short and a very long line number, and one without a line. -/
def mixedLines : List Issue :=
  [.english ⟨"a.js", 18446744073709551615, 5, "x = \"Some text\""⟩ "Some text" .assignment,
   .unparsed "b.js" "Failed to parse",
   .english ⟨"a.js", 9, 3, "f(\"Some text\")"⟩ "Some text" .callArgument]

theorem gutter_aligned_mixedLines :
    ∃ report, ofIssues? mixedLines = some report ∧
      Styled.render false report = rowsText (rows 20 (Issue.sorted mixedLines)) ∧
      Row.guttered "                   9" '|' " f(\"Some text\")" ∈
        rows 20 (Issue.sorted mixedLines) ∧
      "                   9".length = 20 ∧
      (toString 18446744073709551615).length ≤ 20 := by
  have hwidth : Nat.log 10 (largestLine mixedLines) + 1 = 20 := by
    rw [← length_toString]
    decide +kernel
  obtain ⟨hrows, hmargins, hnumbers⟩ := gutter_aligned mixedLines
  rw [hwidth] at hrows hmargins hnumbers
  have hreport : ofIssues? mixedLines = some (ofIssues mixedLines) :=
    ofIssues?_of_all_fits (by decide +kernel)
  have hrow : Row.guttered "                   9" '|' " f(\"Some text\")" ∈
      rows 20 (Issue.sorted mixedLines) := by
    refine List.mem_append_left _ (List.mem_flatMap.2
      ⟨.english ⟨"a.js", 9, 3, "f(\"Some text\")"⟩ "Some text" .callArgument, ?_, ?_⟩)
    · exact (Issue.sorted_perm mixedLines).mem_iff.2 (by decide)
    · decide +kernel
  exact ⟨_, hreport, hrows _ hreport, hrow, (hmargins _ _ _ hrow).1,
    hnumbers _ (List.mem_cons_self ..) _ rfl⟩

end ProseLint.Report
