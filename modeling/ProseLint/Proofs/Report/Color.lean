import ProseLint.Proofs.Report.Caret

/-!
# Colours change no text

With styles, output has a sequence before and behind each styled segment. Deleting the sequences
(`unstyled`) undoes this, if no text has an escape character of its own, since the next `m` behind
the start of a sequence is then the one that ends it (`unstyled_render`). Padding belongs to the
texts of segments, so that it is the same with and without styles. In a report all texts but those
of its issues are free of escape characters, so that its colours can be deleted if the issues are
free of them (`unstyled_report`).
-/

namespace ProseLint

/-! ## Deleting sequences -/

namespace Styled

/-- The character that sequences start with. -/
def escape : Char := '\x1b'

/-- What follows the sequence that a text starts with, if it starts with one: an escape character
and a bracket, up to the next `m`. -/
def afterSequence? : List Char → Option (List Char)
  | c :: '[' :: cs => if c = escape then (cs.dropWhile (· != 'm')).tail? else none
  | _ => none

theorem length_lt_of_afterSequence? {cs rest : List Char} (h : afterSequence? cs = some rest) :
    rest.length < cs.length := by
  unfold afterSequence? at h
  split at h
  · next c cs =>
    split at h
    · have hdropped := (List.dropWhile_suffix (l := cs) (· != 'm')).length_le
      cases hend : cs.dropWhile (· != 'm') with
      | nil => simp [hend] at h
      | cons m behind =>
        simp only [hend, List.tail?_cons, Option.some.injEq] at h
        subst h
        simp only [hend, List.length_cons] at hdropped ⊢
        omega
    · cases h
  · cases h

/-- A text without the sequences in it. -/
def withoutSequences (cs : List Char) : List Char :=
  match _h : afterSequence? cs with
  | some rest => withoutSequences rest
  | none =>
    match cs with
    | [] => []
    | c :: cs => c :: withoutSequences cs
termination_by cs.length
decreasing_by
  · exact length_lt_of_afterSequence? _h
  · simp

/-- A string without the sequences in it. -/
def unstyled (text : String) : String := String.ofList (withoutSequences text.toList)

theorem withoutSequences_nil : withoutSequences [] = [] := by
  simp [withoutSequences, afterSequence?]

theorem withoutSequences_cons {c : Char} (h : c ≠ escape) (cs : List Char) :
    withoutSequences (c :: cs) = c :: withoutSequences cs := by
  have hnone : afterSequence? (c :: cs) = none := by
    unfold afterSequence?
    split
    · next heq =>
      obtain ⟨rfl, -⟩ := List.cons.inj heq
      exact if_neg h
    · rfl
  rw [withoutSequences]
  split
  · simp_all
  · rfl

/-- Text without escape characters stays. -/
theorem withoutSequences_append {cs : List Char} (h : escape ∉ cs) (rest : List Char) :
    withoutSequences (cs ++ rest) = cs ++ withoutSequences rest := by
  induction cs with
  | nil => rfl
  | cons c cs ih =>
    rw [List.mem_cons, not_or] at h
    rw [List.cons_append, withoutSequences_cons (Ne.symm h.1), ih h.2, List.cons_append]

/-- A sequence goes, and nothing behind it. -/
theorem withoutSequences_sequence {parameters : String} (h : 'm' ∉ parameters.toList)
    (rest : List Char) :
    withoutSequences ((sequence parameters).toList ++ rest) = withoutSequences rest := by
  have hparameters : ∀ c ∈ parameters.toList, (c != 'm') = true := by
    rintro c hc
    rw [bne_iff_ne]
    rintro rfl
    exact h hc
  -- the `m` that ends the sequence is the first one in it
  have hafter : afterSequence? ((sequence parameters).toList ++ rest) = some rest := by
    simp [sequence, afterSequence?, escape, List.dropWhile_append_of_pos hparameters]
  rw [withoutSequences]
  split <;> simp_all

/-! ## Output with and without styles -/

/-- The text has no escape character. -/
def EscapeFree (text : String) : Prop := escape ∉ text.toList

instance (text : String) : Decidable (EscapeFree text) := inferInstanceAs (Decidable (_ ∉ _))

@[simp] theorem escapeFree_append {text rest : String} :
    EscapeFree (text ++ rest) ↔ EscapeFree text ∧ EscapeFree rest := by
  simp [EscapeFree]

theorem renderSegment_false (s : Segment) : renderSegment false s = s.text := by
  unfold renderSegment
  split <;> simp_all

theorem notMem_of_mem_codes (style : Style) : ∀ p ∈ style.codes, 'm' ∉ p.toList := by
  cases style <;> decide

theorem withoutSequences_join {parameters : List String} (h : ∀ p ∈ parameters, 'm' ∉ p.toList)
    (rest : List Char) :
    withoutSequences ((String.join (parameters.map sequence)).toList ++ rest) =
      withoutSequences rest := by
  induction parameters with
  | nil => rfl
  | cons p parameters ih =>
    rw [List.forall_mem_cons] at h
    rw [List.map_cons, String.join_cons, String.toList_append, List.append_assoc,
      withoutSequences_sequence h.1, ih h.2]

theorem withoutSequences_renderSegment {s : Segment} (h : EscapeFree s.text) (rest : List Char) :
    withoutSequences ((renderSegment true s).toList ++ rest) =
      s.text.toList ++ withoutSequences rest := by
  obtain ⟨style?, text⟩ := s
  cases style? with
  | none => exact withoutSequences_append h rest
  | some style =>
    simp only [renderSegment, String.toList_append, List.append_assoc]
    rw [withoutSequences_join (notMem_of_mem_codes style), withoutSequences_append h,
      withoutSequences_sequence (by decide)]

/-- Without the sequences in it, output with styles is output without styles. -/
theorem unstyled_render {segments : Styled} (h : ∀ s ∈ segments, EscapeFree s.text) :
    unstyled (render true segments) = render false segments := by
  rw [unstyled, ← String.toList_inj, String.toList_ofList]
  induction segments with
  | nil => exact withoutSequences_nil
  | cons s segments ih =>
    rw [List.forall_mem_cons] at h
    rw [render, render, List.map_cons, List.map_cons, String.join_cons, String.join_cons,
      String.toList_append, String.toList_append, renderSegment_false,
      withoutSequences_renderSegment h.1]
    exact congrArg (s.text.toList ++ ·) (ih h.2)

theorem escapeFree_render_false {segments : Styled} (h : ∀ s ∈ segments, EscapeFree s.text) :
    EscapeFree (render false segments) := by
  induction segments with
  | nil => decide
  | cons s segments ih =>
    rw [List.forall_mem_cons] at h
    rw [render, List.map_cons, String.join_cons, renderSegment_false, escapeFree_append]
    exact ⟨h.1, ih h.2⟩

theorem not_escapeFree_render_true {segments : Styled} {style : Style} {text : String}
    (h : styled style text ∈ segments) : ¬ EscapeFree (render true segments) := by
  obtain ⟨before, behind, rfl⟩ := List.append_of_mem h
  rw [render_append, ← List.singleton_append, render_append, escapeFree_append, escapeFree_append]
  rintro ⟨-, hstyled, -⟩
  -- behind each styled text stands the sequence that ends its style
  have hreset : EscapeFree (sequence "0") := by
    simp only [render, List.map_cons, List.map_nil, String.join_cons, renderSegment, styled,
      escapeFree_append] at hstyled
    exact hstyled.1.2
  exact absurd hreset (by decide)

end Styled

namespace Issue

/-- The texts that the issue brings into a report. -/
def texts : Issue → List String
  | english place text _ => [place.file, place.sourceLine, text]
  | unparsed file error => [file, error]

end Issue

/-! ## Reports -/

namespace Report

open Styled

@[simp] theorem escapeFree_repr (n : Nat) : EscapeFree n.repr := by
  intro hmem
  rw [Nat.toList_repr] at hmem
  exact absurd (Nat.isDigit_of_mem_toDigits (by decide) (by decide) hmem) (by decide)

@[simp] theorem escapeFree_padLeft {width : Nat} {text : String} :
    EscapeFree (padLeft width text) ↔ EscapeFree text := by
  have hblanks : EscapeFree (String.ofList (List.replicate (width - text.length) ' ')) := by
    simp [EscapeFree, escape]
  rw [padLeft, escapeFree_append, and_iff_right hblanks]

theorem escapeFree_placeLines (gutter : Nat) {place : SourcePlace}
    (h : EscapeFree place.sourceLine) : ∀ s ∈ placeLines gutter place, EscapeFree s.text := by
  simp +decide [placeLines, plain, styled, bar, h]

theorem escapeFree_placeSuffix (place? : Option SourcePlace) :
    EscapeFree (placeSuffix place?) := by
  cases place? with
  | none => decide
  | some place => simp +decide [placeSuffix]

theorem escapeFree_details {i : Issue} {details : String} (h : i.details? = some details) :
    EscapeFree details := by
  cases i with
  | unparsed file error => cases h
  | english place text position =>
    obtain rfl := Option.some.inj h
    have hmessage : EscapeFree ruleMessage := by decide +kernel
    have hposition : EscapeFree position.describe := by
      cases position <;> decide
    simp only [escapeFree_append]
    exact ⟨⟨⟨hmessage, by decide⟩, hposition⟩, by decide⟩

theorem escapeFree_issueLines (gutter : Nat) {i : Issue}
    (h : ∀ text ∈ i.texts, EscapeFree text) : ∀ s ∈ issueLines gutter i, EscapeFree s.text := by
  obtain ⟨hfile, hmessage, hline⟩ : EscapeFree i.file ∧ EscapeFree i.message ∧
      ∀ place, i.place? = some place → EscapeFree place.sourceLine := by
    cases i <;> simp_all [Issue.texts, Issue.file, Issue.message, Issue.place?]
  have hname : EscapeFree i.rule.name := by
    cases i.rule <;> decide
  simp only [issueLines, List.forall_mem_append]
  refine ⟨⟨⟨?_, ?_⟩, ?_⟩, ?_⟩
  · simp +decide [plain, styled, hfile, hmessage, hname, escapeFree_placeSuffix]
  · cases hplace : i.place? with
    | none => simp
    | some place => exact escapeFree_placeLines gutter (hline place hplace)
  · cases hdetails : i.details? with
    | none => simp
    | some details => simp +decide [plain, styled, escapeFree_details hdetails]
  · simp +decide

theorem escapeFree_summary (total : Nat) : ∀ s ∈ summary total, EscapeFree s.text := by
  unfold summary counted
  split
  · simp
  · split <;> simp +decide [plain, styled]

theorem escapeFree_ofIssues {issues : List Issue}
    (h : ∀ i ∈ issues, ∀ text ∈ i.texts, EscapeFree text) :
    ∀ s ∈ ofIssues issues, EscapeFree s.text := by
  refine List.forall_mem_append.2 ⟨?_, escapeFree_summary _⟩
  intro s hs
  obtain ⟨i, hi, hs⟩ := List.mem_flatMap.1 hs
  exact escapeFree_issueLines _ (h i (List.mem_mergeSort.1 hi)) s hs

theorem styled_error_mem_ofIssues {issues : List Issue} (h : issues ≠ []) :
    styled .boldRed "error" ∈ ofIssues issues := by
  obtain ⟨i, hi⟩ := List.exists_mem_of_ne_nil issues h
  exact (issueLines_isInfix_ofIssues hi).subset (by simp [issueLines])

/-- For issues without escape characters in their texts: deleting the sequences from their report
with colours gives their report without colours. With colours, the report of any issue does have
sequences, and without colours it has none. -/
theorem unstyled_report (issues : List Issue)
    (h : ∀ i ∈ issues, ∀ text ∈ i.texts, EscapeFree text) :
    ((ofIssues? issues).map (Styled.render true)).map unstyled =
      (ofIssues? issues).map (Styled.render false) ∧
    ∀ report, ofIssues? issues = some report →
      EscapeFree (Styled.render false report) ∧
      (issues ≠ [] → ¬ EscapeFree (Styled.render true report)) := by
  have hreport : ∀ s ∈ ofIssues issues, EscapeFree s.text := escapeFree_ofIssues h
  constructor
  · cases hprinted : ofIssues? issues with
    | none => rfl
    | some report =>
      obtain rfl := eq_ofIssues_of_ofIssues? hprinted
      rw [Option.map_some, Option.map_some, Option.map_some, unstyled_render hreport]
  · intro report hprinted
    obtain rfl := eq_ofIssues_of_ofIssues? hprinted
    exact ⟨escapeFree_render_false hreport,
      fun hne => not_escapeFree_render_true (styled_error_mem_ofIssues hne)⟩

/-- Issues whose line numbers and carets are padded, and one without a place. -/
def paddedIssues : List Issue :=
  [.english ⟨"src/a.js", 100, 7, "你好(\"Some message\")"⟩ "Some message" .callArgument,
   .english ⟨"src/a.js", 9, 3, "f(\"Some text\") // [1m"⟩ "Some text" .callArgument,
   .unparsed "b.js" "Failed to parse"]

theorem unstyled_report_paddedIssues :
    (∀ i ∈ paddedIssues, ∀ text ∈ i.texts, EscapeFree text) ∧
    ∃ report, ofIssues? paddedIssues = some report ∧
      unstyled (Styled.render true report) = Styled.render false report ∧
      Styled.render true report ≠ Styled.render false report := by
  have hfree : ∀ i ∈ paddedIssues, ∀ text ∈ i.texts, EscapeFree text := by decide +kernel
  have hprinted : ofIssues? paddedIssues = some (ofIssues paddedIssues) :=
    ofIssues?_of_all_fits (by decide +kernel)
  obtain ⟨hunstyled, hsequences⟩ := unstyled_report paddedIssues hfree
  rw [hprinted, Option.map_some, Option.map_some, Option.map_some, Option.some.injEq] at hunstyled
  obtain ⟨hplain, hcolored⟩ := hsequences _ hprinted
  refine ⟨hfree, _, hprinted, hunstyled, fun heq => ?_⟩
  exact hcolored (by decide) (heq ▸ hplain)

end Report

end ProseLint
