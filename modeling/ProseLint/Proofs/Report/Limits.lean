import Mathlib.Data.Nat.Digits.Defs
import ProseLint.Proofs.Report.Caret

/-!
# Widths in a report

Text can be padded to a limited width only, and a report pads with two widths: that of its gutter
and that before each caret. The gutter is as wide as a line number is long, and always within the
limit. The width before a caret is that of a part of a source line, and nothing limits the length of
lines. `widths_of_checkSource` says which reports can be printed: those of lines of up to 21845
characters always, and with plain text before a literal, exactly if the text is no longer than the
limit.
-/

namespace ProseLint

open ProseLint.Syntax (Program.withoutMark)
open ProseLint.Syntax.Lexer (isDelimiter)
open ProseLint.Text.Width (IsPlain textColumns textColumns_le textColumns_of_isPlain)
open ProseLint.Location (columnsOfAll columnsOf_of_isPlain lineText line_ofOffset_le)

namespace Report

/-! ## The gutter -/

theorem gutterWidth_le {issues : List Issue} {k : Nat} (hk : 0 < k)
    (h : ∀ i ∈ issues, ∀ n, i.line? = some n → n < 10 ^ k) : gutterWidth issues ≤ k := by
  unfold gutterWidth
  cases hmax : (issues.filterMap Issue.line?).max? with
  | none => exact hk
  | some n =>
    obtain ⟨i, hi, hn⟩ := List.mem_filterMap.1 (List.max?_mem hmax)
    exact Nat.repr_length n k hk (h i hi n hn)

/-! ## The carets -/

theorem exists_ofIssues?_iff {issues : List Issue} :
    (∃ report, ofIssues? issues = some report) ↔
      ∀ i ∈ issues, ∀ place, i.place? = some place → caretPadding place ≤ widthLimit := by
  have hfits (i : Issue) :
      fits i ↔ ∀ place, i.place? = some place → caretPadding place ≤ widthLimit := by
    unfold fits
    cases i.place? <;> simp
  have hall : issues.all fits ↔ ∃ report, ofIssues? issues = some report := by
    unfold ofIssues?
    cases issues.all fits <;> simp
  rw [← hall, List.all_eq_true]
  exact forall₂_congr fun i _ => hfits i

theorem caretPadding_le (place : SourcePlace) :
    caretPadding place ≤ 3 * place.sourceLine.length := by
  have htaken := textColumns_le (place.sourceLine.toList.take (place.col - 1))
  rw [List.length_take, String.length_toList] at htaken
  rw [caretPadding]
  omega

/-- Behind plain text, the caret stands behind as many columns as the text has characters. -/
theorem caretPadding_of_isPlain {place : SourcePlace} {before after : List Char}
    (hline : place.sourceLine.toList = before ++ after)
    (hcol : place.col = columnsOfAll before + 1) (h : ∀ c ∈ before, IsPlain c) :
    caretPadding place = before.length := by
  rw [caretPadding_of_narrow hline hcol fun c hc => columnsOf_of_isPlain (h c hc),
    textColumns_of_isPlain h]

end Report

theorem length_withoutMark_le (source : List Char) :
    (Program.withoutMark source).length ≤ source.length := by
  unfold Program.withoutMark
  split <;> simp

theorem line_le_of_mem_checkSource {e : Exemptions} {file : String} {source : List Char}
    {i : Issue} {n : Nat} (h : i ∈ checkSource e file source) (hn : i.line? = some n) :
    n ≤ source.length + 1 := by
  unfold checkSource at h
  split at h
  · obtain ⟨v, -, rfl⟩ := List.mem_map.1 h
    obtain rfl := Option.some.inj hn
    have hline := line_ofOffset_le (Program.withoutMark source) v.span.lo
    have hlength := length_withoutMark_le source
    exact Nat.le_trans hline (Nat.succ_le_succ hlength)
  · rw [List.mem_singleton.1 h] at hn
    cases hn

/-- The widths in the report of a source. The gutter never exceeds the limit. The report can be
printed exactly if the padding before every caret is within it. That padding has the columns of as
many characters of the source line as there are columns before the literal; it is within the limit
on every line of up to 21845 characters, and behind plain text exactly if the text has no more
characters than the limit. -/
theorem widths_of_checkSource (e : Exemptions) (file : String) (source : List Char) :
    let issues := checkSource e file source
    (source.length < 2 ^ 64 →
      Report.gutterWidth (Issue.sorted issues) ≤ Report.widthLimit) ∧
    ((∃ report, Report.ofIssues? issues = some report) ↔
      ∀ i ∈ issues, ∀ place, i.place? = some place →
        Report.caretPadding place ≤ Report.widthLimit) ∧
    ∀ place text position, .english place text position ∈ issues →
      ∃ above before delimiter after,
        (Program.withoutMark source = above ++ before ++ delimiter :: after ∧
          isDelimiter delimiter ∧
          place.sourceLine.toList = before ++ delimiter :: lineText after) ∧
        Report.caretPadding place =
          textColumns (place.sourceLine.toList.take (columnsOfAll before)) ∧
        (place.sourceLine.length ≤ 21845 → Report.caretPadding place ≤ Report.widthLimit) ∧
        ((∀ c ∈ before, IsPlain c) →
          (Report.caretPadding place ≤ Report.widthLimit ↔
            before.length ≤ Report.widthLimit)) := by
  intro issues
  refine ⟨fun hsize => ?_, Report.exists_ofIssues?_iff, ?_⟩
  · have hlines : ∀ i ∈ Issue.sorted issues, ∀ n, i.line? = some n → n < 10 ^ 20 := by
      intro i hi n hn
      have hline := line_le_of_mem_checkSource (List.mem_mergeSort.1 hi) hn
      omega
    have hgutter : Report.gutterWidth (Issue.sorted issues) ≤ 20 :=
      Report.gutterWidth_le (by decide) hlines
    exact Nat.le_trans hgutter (by decide)
  · intro place text position hmem
    obtain ⟨tree, v, above, before, delimiter, after, -, -, -, htext, -, hdelimiter, hline, hcol⟩ :=
      exists_of_mem_checkSource hmem
    refine ⟨above, before, delimiter, after, ⟨htext, hdelimiter, hline⟩, ?_, ?_, ?_⟩
    · rw [Report.caretPadding, hcol, Nat.add_sub_cancel]
    · intro hshort
      have hpadding := Report.caretPadding_le place
      have hlimit : Report.widthLimit = 3 * 21845 := rfl
      omega
    · intro hplain
      rw [Report.caretPadding_of_isPlain hline hcol hplain]

theorem widths_of_checkSource_wide :
    let source := "你好(\"Some m\")".toList
    let place : SourcePlace := ⟨"a.js", 1, 6, "你好(\"Some m\")"⟩
    source.length < 2 ^ 64 ∧
      Report.gutterWidth (Issue.sorted (checkSource {} "a.js" source)) ≤ Report.widthLimit ∧
      .english place "Some m" .callArgument ∈ checkSource {} "a.js" source ∧
      place.sourceLine.length ≤ 21845 ∧ Report.caretPadding place ≤ Report.widthLimit := by
  intro source place
  have hmem : .english place "Some m" .callArgument ∈ checkSource {} "a.js" source := by
    decide +kernel
  have hsize : source.length < 2 ^ 64 := by decide
  have hshort : place.sourceLine.length ≤ 21845 := by decide
  obtain ⟨hgutter, -, hcarets⟩ := widths_of_checkSource {} "a.js" source
  obtain ⟨above, before, delimiter, after, -, -, hfits, -⟩ := hcarets _ _ _ hmem
  exact ⟨hsize, hgutter hsize, hmem, hshort, hfits hshort⟩

end ProseLint
