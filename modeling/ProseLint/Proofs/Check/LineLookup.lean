import ProseLint.Check
import ProseLint.Proofs.Location
import ProseLint.Proofs.Violation.Delimiter

/-!
# The source line of an issue

The place of an issue is found by the offset at which its literal begins. The lines of the text have
a table of starts, in which the line is found that begins last before the offset, and the line that
is shown is cut out of the text from there to the next line feed. `issueOf_looks_up_line` says that
nothing goes wrong on the way, wherever the literal stands: there is such a line, its number counts
from one, and it shows the delimiter of the literal, as many bytes behind its start as the offset is
behind that of the line.
-/

namespace ProseLint

open ProseLint.Syntax (Program.parse Program.withoutMark)
open ProseLint.Syntax.Lexer (isDelimiter)
open ProseLint.Text (byteLength byteLength_append byteLength_cons)
open ProseLint.Location (lineStarts lineText)

/-- A text is cut in one way at an offset. -/
theorem append_inj_of_byteLength_eq {behind behind' rest rest' : List Char}
    (h : behind ++ rest = behind' ++ rest') (hlength : byteLength behind = byteLength behind') :
    behind = behind' ∧ rest = rest' := by
  have hnil (cs : List Char) (hzero : byteLength cs = 0) : cs = [] := by
    cases cs with
    | nil => rfl
    | cons c cs =>
      have := c.utf8Size_pos
      rw [byteLength_cons] at hzero
      omega
  rcases List.append_eq_append_iff.1 h with ⟨between, rfl, rfl⟩ | ⟨between, rfl, rfl⟩
  · obtain rfl := hnil between (by rw [byteLength_append] at hlength; omega)
    simp
  · obtain rfl := hnil between (by rw [byteLength_append] at hlength; omega)
    simp

/-- The table has a line at the last start up to an offset, and its number is not zero. -/
theorem getElem?_lineStarts {text : List Char} {offset start : Nat}
    (h : ((lineStarts text).takeWhile (· ≤ offset)).getLast? = some start) :
    1 ≤ ((lineStarts text).takeWhile (· ≤ offset)).length ∧
      (lineStarts text)[((lineStarts text).takeWhile (· ≤ offset)).length - 1]? = some start := by
  obtain ⟨later, hlater⟩ := List.takeWhile_prefix (l := lineStarts text) (· ≤ offset)
  obtain ⟨earlier, hearlier⟩ := List.getLast?_eq_some_iff.1 h
  rw [hearlier] at hlater ⊢
  refine ⟨by simp, ?_⟩
  rw [← hlater, List.length_append, List.length_singleton, Nat.add_sub_cancel]
  simp

/-- For a violation of which `behind` is what stands before it: the number of its line is that of
the last start in the ascending table of lines up to its offset, and no line feed stands between
that start and the violation. The source line is the text from there to the next line feed; behind
as many bytes as the violation is behind the start, it shows the character at which the violation
begins, which is the delimiter of a literal. -/
theorem issueOf_looks_up_line (file : String) (source : List Char) (v : Violation)
    {behind rest : List Char} {here : Char}
    (htext : Program.withoutMark source = behind ++ here :: rest)
    (hoffset : byteLength behind = v.span.lo) :
    let text := Program.withoutMark source
    ∃ place above before, issueOf file text v = .english place v.text v.position ∧
      ((lineStarts text).Pairwise (· < ·) ∧ 1 ≤ place.line ∧
        place.line = ((lineStarts text).takeWhile (· ≤ v.span.lo)).length ∧
        (lineStarts text)[place.line - 1]? = some (byteLength above)) ∧
      (text = above ++ (before ++ here :: rest) ∧ '\n' ∉ before ∧
        byteLength above ≤ v.span.lo ∧ byteLength before = v.span.lo - byteLength above) ∧
      place.sourceLine.toList = (before ++ here :: rest).takeWhile (· != '\n') ∧
      (here ≠ '\n' → before ++ [here] <+: place.sourceLine.toList) ∧
      ∀ (e : Exemptions) tree, Program.parse (Path.dialect file) source = .ok tree →
        v ∈ violations e tree →
          isDelimiter here ∧ .english place v.text v.position ∈ checkSource e file source := by
  intro text
  obtain ⟨above, before, hsplit, hbefore, hstart, hlocation⟩ :=
    Location.ofOffset_spec behind here rest
  rw [← htext, hoffset] at hstart hlocation
  obtain ⟨hpos, hfound⟩ := getElem?_lineStarts hstart
  let location := Location.ofOffset text v.span.lo
  have hline : location.line = ((lineStarts text).takeWhile (· ≤ v.span.lo)).length := by
    rw [show location = _ from hlocation]
  have hsource :
      (String.ofList location.sourceLine).toList = before ++ lineText (here :: rest) := by
    rw [String.toList_ofList, show location = _ from hlocation]
  have hlo : byteLength above + byteLength before = v.span.lo := by
    rw [← hoffset, hsplit, byteLength_append]
  refine ⟨⟨file, location.line, location.col, String.ofList location.sourceLine⟩, above, before,
    rfl, ⟨Location.pairwise_lineStartsFrom 0 true text, ?_, hline, ?_⟩,
    ⟨?_, hbefore, by omega, by omega⟩, ?_, ?_, ?_⟩
  · exact hline ▸ hpos
  · exact hline ▸ hfound
  · rw [← List.append_assoc, ← hsplit]
    exact htext
  · exact hsource.trans (Location.lineText_append hbefore _).symm
  · intro hhere
    rw [hsource, Location.lineText_cons hhere]
    exact ⟨lineText rest, by simp⟩
  · intro e tree hparse hv
    -- the delimiter stands at the same offset, and a text is cut in one way there
    obtain ⟨behind', delimiter, after, htext', hoffset', hdelimiter⟩ :=
      opensAt_of_mem_violations hparse hv
    obtain ⟨-, hrest⟩ := append_inj_of_byteLength_eq (htext.symm.trans htext')
      (hoffset.trans hoffset'.symm)
    obtain ⟨rfl, -⟩ := List.cons.inj hrest
    refine ⟨hdelimiter, ?_⟩
    simp only [checkSource, hparse]
    exact List.mem_map_of_mem hv

/-- A template over two lines, the second of which does not end, behind a line that ends with a
carriage return and a line feed. -/
def lastLines : List Char := "\ufeffé\r\n\tf(`Some\ntext ${x}`)".toList

/-- The violation that the template is. -/
def lastViolation : Violation := ⟨⟨⟨7, 23⟩, .template, "Some\ntext "⟩, .callArgument⟩

theorem issueOf_looks_up_line_lastLines :
    Program.withoutMark lastLines = "é\r\n\tf(".toList ++ '\x60' :: "Some\ntext ${x}`)".toList ∧
      byteLength "é\r\n\tf(".toList = lastViolation.span.lo ∧
      ∃ place above before,
        issueOf "a.js" (Program.withoutMark lastLines) lastViolation =
          .english place "Some\ntext " .callArgument ∧
        place.line = 2 ∧ (lineStarts (Program.withoutMark lastLines))[1]? = some 4 ∧
        byteLength above = 4 ∧ byteLength before = 3 ∧
        before ++ ['\x60'] <+: place.sourceLine.toList ∧
        .english place "Some\ntext " .callArgument ∈ checkSource {} "a.js" lastLines := by
  have htext : Program.withoutMark lastLines =
      "é\r\n\tf(".toList ++ '\x60' :: "Some\ntext ${x}`)".toList := by decide
  have hoffset : byteLength "é\r\n\tf(".toList = lastViolation.span.lo := by decide
  refine ⟨htext, hoffset, ?_⟩
  obtain ⟨place, above, before, hissue, ⟨-, -, hline, hfound⟩, ⟨-, -, -, hbytes⟩, -, hshown,
    hmem⟩ := issueOf_looks_up_line "a.js" lastLines lastViolation htext hoffset
  have hline : place.line = 2 := hline.trans (by decide)
  have hstart : (lineStarts (Program.withoutMark lastLines))[1]? = some 4 := by decide
  have habove : byteLength above = 4 := by
    rw [hline, hstart] at hfound
    exact (Option.some.inj hfound).symm
  rw [habove] at hbytes
  have heval : (Program.parse (Path.dialect "a.js") lastLines).toOption.map (violations {}) =
      some [lastViolation] := by decide +kernel
  cases hparse : Program.parse (Path.dialect "a.js") lastLines with
  | error error =>
    rw [hparse] at heval
    cases heval
  | ok tree =>
    rw [hparse] at heval
    have hv : violations {} tree = [lastViolation] := Option.some.inj heval
    refine ⟨place, above, before, hissue, hline, hstart, habove, hbytes, hshown (by decide), ?_⟩
    exact (hmem {} tree hparse (hv ▸ List.mem_singleton_self _)).2

end ProseLint
