import ProseLint.Check
import ProseLint.Proofs.Location
import ProseLint.Proofs.Text.Width
import ProseLint.Proofs.Violation.Delimiter
import ProseLint.Report

/-!
# Where the caret stands

The column of an issue counts the columns before its literal, but the report takes it for a number
of characters, whose columns it counts again. `caret_under_delimiter_iff` says when the two
agree, so that the caret stands under the quote or backtick that opens the literal: there must be at
least as many characters before the literal as columns, and so many of them must fill all columns.
Characters that are wide, and tabs, break this; where every character takes one column, it holds
(`caretPadding_of_narrow`).
-/

namespace ProseLint

open ProseLint.Syntax (Program.parse Program.withoutMark)
open ProseLint.Syntax.Lexer (isDelimiter)
open ProseLint.Text (byteLength)
open ProseLint.Text.Width (textColumns StandsAlone standsAlone_of textColumns_append_cons)
open ProseLint.Location (columnsOfAll columnsOfAll_eq_length lineText)

/-! ## What a report shows of a place -/

namespace Report

/-- Some blanks. -/
def blanks (n : Nat) : String := String.ofList (List.replicate n ' ')

/-- The lines of a report that show a place: a bar, the numbered source line, and a caret that
stands `padding` blanks behind its bar. -/
def placeText (gutter : Nat) (place : SourcePlace) (padding : Nat) : String :=
  blanks gutter ++ " |\n" ++
  padLeft gutter (toString place.line) ++ " | " ++ place.sourceLine ++ "\n" ++
  blanks gutter ++ " | " ++ blanks padding ++ "^\n"

theorem padLeft_empty (width : Nat) : padLeft width "" = blanks width := by
  simp [padLeft, blanks]

theorem render_placeLines (gutter : Nat) (place : SourcePlace) :
    Styled.render false (placeLines gutter place) =
      placeText gutter place (caretPadding place) := by
  rw [← String.toList_inj]
  simp [placeLines, placeText, Styled.render, Styled.renderSegment, Styled.plain, Styled.styled,
    bar, padLeft_empty]

theorem placeLines_isInfix_issueLines {i : Issue} {place : SourcePlace} (h : i.place? = some place)
    (gutter : Nat) : placeLines gutter place <:+: issueLines gutter i := by
  unfold issueLines
  simp only [h, List.append_assoc]
  exact (List.prefix_append ..).isInfix.trans (List.suffix_append ..).isInfix

theorem issueLines_isInfix_ofIssues {issues : List Issue} {i : Issue} (h : i ∈ issues) :
    issueLines (gutterWidth (Issue.sorted issues)) i <:+: ofIssues issues := by
  have hsorted : i ∈ Issue.sorted issues := List.mem_mergeSort.2 h
  refine List.IsInfix.trans ?_ (List.prefix_append ..).isInfix
  exact List.infix_of_mem_flatten (List.mem_map_of_mem hsorted)

theorem ofIssues?_of_all_fits {issues : List Issue} (h : issues.all fits) :
    ofIssues? issues = some (ofIssues issues) := if_pos h

theorem eq_ofIssues_of_ofIssues? {issues : List Issue} {report : Styled}
    (h : ofIssues? issues = some report) : report = ofIssues issues := by
  unfold ofIssues? at h
  split at h
  · exact (Option.some.inj h).symm
  · cases h

/-- A report shows the place of each of its issues. -/
theorem exists_render_eq {issues : List Issue} {report : Styled} {i : Issue} {place : SourcePlace}
    (hreport : ofIssues? issues = some report) (hi : i ∈ issues) (hplace : i.place? = some place) :
    ∃ above below, Styled.render false report = above ++
      placeText (gutterWidth (Issue.sorted issues)) place (caretPadding place) ++ below := by
  obtain rfl := eq_ofIssues_of_ofIssues? hreport
  obtain ⟨above, below, hlines⟩ :=
    (placeLines_isInfix_issueLines hplace _).trans (issueLines_isInfix_ofIssues hi)
  refine ⟨Styled.render false above, Styled.render false below, ?_⟩
  rw [← hlines, Styled.render_append, Styled.render_append, render_placeLines]

/-! ## The columns before the caret -/

/-- A delimiter takes one column and joins with nothing. -/
theorem standsAlone_of_isDelimiter {c : Char} (h : isDelimiter c) : StandsAlone c := by
  obtain rfl | rfl | rfl : c = '\x22' ∨ c = '\x27' ∨ c = '\x60' := by
    simpa [isDelimiter, or_assoc] using h
  all_goals exact standsAlone_of (fun f => by cases f <;> rfl) rfl rfl rfl

/-- Behind the delimiter there are more columns than before it, however many characters are
taken. -/
theorem textColumns_lt_take {delimiter : Char} (h : isDelimiter delimiter)
    {before : List Char} (after : List Char) {n : Nat} (hn : before.length < n) :
    textColumns before < textColumns ((before ++ delimiter :: after).take n) := by
  obtain ⟨k, rfl⟩ : ∃ k, n = before.length + (k + 1) := ⟨n - before.length - 1, by omega⟩
  rw [List.take_length_add_append, List.take_succ_cons,
    textColumns_append_cons (standsAlone_of_isDelimiter h)]
  omega

/-- As many characters of a line as there are columns before its delimiter fill the columns before
the delimiter exactly if they all stand before it and fill them. -/
theorem textColumns_take_eq_iff {delimiter : Char} (h : isDelimiter delimiter)
    (before after : List Char) (n : Nat) :
    textColumns ((before ++ delimiter :: after).take n) = textColumns before ↔
      n ≤ before.length ∧ textColumns (before.take n) = textColumns before := by
  by_cases hn : n ≤ before.length
  · rw [List.take_append_of_le_length hn]
    exact (and_iff_right hn).symm
  · have := textColumns_lt_take h after (Nat.lt_of_not_le hn)
    exact ⟨fun heq => by omega, fun hle => absurd hle.1 hn⟩

end Report

/-! ## Issues of a source -/

theorem lineText_cons_of_isDelimiter {delimiter : Char} (h : isDelimiter delimiter)
    (after : List Char) : lineText (delimiter :: after) = delimiter :: lineText after := by
  refine Location.lineText_cons ?_ after
  rintro rfl
  cases h

/-- An issue of English text comes from a violation, and shows the line of its delimiter. -/
theorem exists_of_mem_checkSource {e : Exemptions} {file : String} {source : List Char}
    {place : SourcePlace} {text : String} {position : Position}
    (h : .english place text position ∈ checkSource e file source) :
    ∃ tree v above before delimiter after,
      Program.parse (Path.dialect file) source = .ok tree ∧ v ∈ violations e tree ∧
      issueOf file (Program.withoutMark source) v = .english place text position ∧
      Program.withoutMark source = above ++ before ++ delimiter :: after ∧
      byteLength (above ++ before) = v.span.lo ∧ isDelimiter delimiter ∧
      place.sourceLine.toList = before ++ delimiter :: lineText after ∧
      place.col = columnsOfAll before + 1 := by
  unfold checkSource at h
  split at h
  · next tree hparse =>
    obtain ⟨v, hv, hissue⟩ := List.mem_map.1 h
    obtain ⟨behind, delimiter, after, htext, hoffset, hdelimiter⟩ :=
      opensAt_of_mem_violations hparse hv
    obtain ⟨above, before, rfl, -, -, hlocation⟩ :=
      Location.ofOffset_spec behind delimiter after
    rw [← htext, hoffset] at hlocation
    have hplace := hissue
    rw [issueOf, hlocation, lineText_cons_of_isDelimiter hdelimiter] at hplace
    cases hplace
    refine ⟨tree, v, above, before, delimiter, after, hparse, hv, hissue, htext, hoffset,
      hdelimiter, ?_, rfl⟩
    exact String.toList_ofList
  · simp at h

/-- For every issue of English text: in every report without colours in which it is printed, its
caret stands `caretPadding` blanks behind the bar. These are the columns of what stands on the
source line before the literal's delimiter, so that the caret stands under the delimiter, exactly
if there are no more columns (in the sense of the source's locations) than characters before it, and
so many characters fill all columns. -/
theorem caret_under_delimiter_iff (e : Exemptions) (file : String) (source : List Char)
    {place : SourcePlace} {text : String} {position : Position}
    (h : .english place text position ∈ checkSource e file source) :
    ∃ tree v above before delimiter after,
      (Program.parse (Path.dialect file) source = .ok tree ∧ v ∈ violations e tree ∧
        issueOf file (Program.withoutMark source) v = .english place text position) ∧
      (Program.withoutMark source = above ++ before ++ delimiter :: after ∧
        byteLength (above ++ before) = v.span.lo ∧ isDelimiter delimiter ∧
        place.sourceLine.toList = before ++ delimiter :: lineText after) ∧
      (∀ issues report, .english place text position ∈ issues →
        Report.ofIssues? issues = some report →
        ∃ upper lower, Styled.render false report = upper ++
          Report.placeText (Report.gutterWidth (Issue.sorted issues)) place
            (Report.caretPadding place) ++ lower) ∧
      (Report.caretPadding place = textColumns before ↔
        columnsOfAll before ≤ before.length ∧
          textColumns (before.take (columnsOfAll before)) = textColumns before) := by
  obtain ⟨tree, v, above, before, delimiter, after, hparse, hv, hissue, htext, hoffset, hdelimiter,
    hline, hcol⟩ := exists_of_mem_checkSource h
  refine ⟨tree, v, above, before, delimiter, after, ⟨hparse, hv, hissue⟩,
    ⟨htext, hoffset, hdelimiter, hline⟩, ?_, ?_⟩
  · intro issues report hmem hreport
    exact Report.exists_render_eq hreport hmem rfl
  · rw [Report.caretPadding, hline, hcol, Nat.add_sub_cancel]
    exact Report.textColumns_take_eq_iff hdelimiter before (lineText after) (columnsOfAll before)

/-- Two wide characters before the literal: the caret stands behind seven columns, but the quote
behind five. -/
theorem caret_under_delimiter_iff_wide :
    .english ⟨"a.js", 1, 6, "你好(\"Some m\")"⟩ "Some m" .callArgument ∈
        checkSource {} "a.js" "你好(\"Some m\")".toList ∧
      (∃ before delimiter after, isDelimiter delimiter ∧
        "你好(\"Some m\")".toList = before ++ delimiter :: after ∧
        (Report.caretPadding ⟨"a.js", 1, 6, "你好(\"Some m\")"⟩ = textColumns before ↔
          columnsOfAll before ≤ before.length ∧
            textColumns (before.take (columnsOfAll before)) = textColumns before)) ∧
      Report.caretPadding ⟨"a.js", 1, 6, "你好(\"Some m\")"⟩ = 7 ∧
      textColumns "你好(".toList = 5 := by
  have hmem : .english ⟨"a.js", 1, 6, "你好(\"Some m\")"⟩ "Some m" .callArgument ∈
      checkSource {} "a.js" "你好(\"Some m\")".toList := by decide +kernel
  obtain ⟨tree, v, above, before, delimiter, after, -, ⟨-, -, hdelimiter, hline⟩, -, hiff⟩ :=
    caret_under_delimiter_iff {} "a.js" "你好(\"Some m\")".toList hmem
  exact ⟨hmem, ⟨before, delimiter, lineText after, hdelimiter, hline, hiff⟩, by decide +kernel,
    by decide +kernel⟩

/-- Where every character before the literal takes one column, the caret stands under its
delimiter. -/
theorem caretPadding_of_narrow {place : SourcePlace} {before after : List Char}
    (hline : place.sourceLine.toList = before ++ after)
    (hcol : place.col = columnsOfAll before + 1) (h : ∀ c ∈ before, Location.columnsOf c = 1) :
    Report.caretPadding place = textColumns before := by
  have hcolumns := columnsOfAll_eq_length h
  rw [Report.caretPadding, hline, hcol, Nat.add_sub_cancel, hcolumns, List.take_left]

end ProseLint
