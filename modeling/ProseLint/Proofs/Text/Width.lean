import ProseLint.Text.Width
import Mathlib.Data.List.Basic

/-!
# Columns of text before and behind a character

The columns of a text are counted from its end, and a character may join with what follows it, so a
longer text need not be wider. But no text gets narrower than nothing (`countable_foldr`), and a
character that joins with nothing (`StandsAlone`) separates the text before it from the text behind:
the columns on both sides add up with its own (`textColumns_append_cons`).
-/

namespace ProseLint.Text.Width

/-! ## The count and what follows -/

theorem addBefore_add (c : Char) (k : Int) (s : Int × Following) :
    addBefore c (k + s.1, s.2) = (k + (addBefore c s).1, (addBefore c s).2) := by
  unfold addBefore
  cases joined? c s.2 with
  | some j => simp [Int.add_assoc]
  | none =>
    dsimp only
    split_ifs <;> simp [Int.add_assoc]

/-- The columns behind a text are only added to. -/
theorem foldr_addBefore_add (cs : List Char) (k : Int) (s : Int × Following) :
    cs.foldr addBefore (k + s.1, s.2) =
      (k + (cs.foldr addBefore s).1, (cs.foldr addBefore s).2) := by
  induction cs with
  | nil => rfl
  | cons c cs ih => rw [List.foldr_cons, List.foldr_cons, ih, addBefore_add]

/-! ## No text is narrower than nothing -/

/-- The columns counted so far cover what a character before them may take away. -/
def Countable (s : Int × Following) : Prop :=
  0 ≤ s.1 ∧ (s.2 = .subscriptLetter ∨ s.2 = .consonantJoiner → 1 ≤ s.1)

theorem inRanges_disjoint {n : Nat} {rs ss : List (Nat × Nat)} (hn : inRanges n rs)
    (h : ∀ r ∈ rs, ∀ s ∈ ss, r.2 < s.1 ∨ s.2 < r.1) : inRanges n ss = false := by
  obtain ⟨r, hr, hlo, hhi⟩ := inRanges_iff.1 hn
  rw [Bool.eq_false_iff]
  intro hin
  obtain ⟨s, hs, hlo', hhi'⟩ := inRanges_iff.1 hin
  have := h r hr s hs
  omega

theorem followingOf_eq_other_or (c : Char) :
    followingOf c = .other ∨ ∃ p ∈ followingClasses, p.1 c ∧ followingOf c = p.2 := by
  unfold followingOf
  split
  · next p f h =>
    exact .inr ⟨(p, f), List.mem_of_find?_eq_some h, by simpa using List.find?_some h, rfl⟩
  · exact .inl rfl

theorem isSubscriptLetter_of_followingOf {c : Char} (h : followingOf c = .subscriptLetter) :
    isSubscriptLetter c := by
  rcases followingOf_eq_other_or c with hother | ⟨p, hp, hc, hfollowing⟩
  · rw [hother] at h
    cases h
  · have hclass : ∀ p ∈ followingClasses, p.2 = .subscriptLetter → p.1 = isSubscriptLetter := by
      simp [followingClasses]
    rwa [hclass p hp (hfollowing ▸ h)] at hc

theorem followingOf_ne_consonantJoiner (c : Char) : followingOf c ≠ .consonantJoiner := by
  rcases followingOf_eq_other_or c with hother | ⟨p, hp, _, hfollowing⟩
  · simp [hother]
  · have hclass : ∀ p ∈ followingClasses, p.2 ≠ .consonantJoiner := by simp [followingClasses]
    rw [hfollowing]
    exact hclass p hp

theorem printedColumns_of_isSubscriptLetter {c : Char} (h : isSubscriptLetter c) :
    1 ≤ printedColumns c := by
  have hzero : isZero c = false := by
    simp only [isZero, List.any_cons, List.any_nil, Bool.or_false, Bool.or_eq_false_iff]
    exact ⟨inRanges_disjoint h (by decide +kernel), inRanges_disjoint h (by decide +kernel)⟩
  unfold printedColumns
  rw [hzero]
  grind only

/-- Only before a letter made small, or between consonants that join, is a column taken back. -/
theorem joined?_eq_some {c : Char} {f f' : Following} {k : Int}
    (h : joined? c f = some (k, f')) :
    f' ≠ .subscriptLetter ∧ (f' = .consonantJoiner → k = 1) ∧
      (0 ≤ k ∨ k = -1 ∧ (f = .subscriptLetter ∨ f = .consonantJoiner)) := by
  unfold joined? at h
  split at h
  all_goals grind only

theorem countable_addBefore (c : Char) {s : Int × Following} (h : Countable s) :
    Countable (addBefore c s) := by
  obtain ⟨hnonneg, hcovers⟩ := h
  unfold addBefore Countable
  cases hj : joined? c s.2 with
  | some j =>
    obtain ⟨hsubscript, hjoiner, hk⟩ := joined?_eq_some hj
    refine ⟨?_, ?_⟩
    · rcases hk with hk | ⟨hk, hbefore⟩
      · exact Int.add_nonneg hnonneg hk
      · have := hcovers hbefore
        dsimp only
        omega
    · rintro (hf | hf)
      · exact absurd hf hsubscript
      · have := hjoiner hf
        dsimp only
        omega
  | none =>
    have hletter (h : followingOf c = .subscriptLetter) : 1 ≤ printedColumns c :=
      printedColumns_of_isSubscriptLetter (isSubscriptLetter_of_followingOf h)
    have hjoiner := followingOf_ne_consonantJoiner c
    dsimp only
    split
    · exact ⟨by dsimp only; omega, by simp⟩
    · split
      · exact ⟨by dsimp only; omega, by simp⟩
      · refine ⟨by dsimp only; omega, ?_⟩
        rintro (hf | hf)
        · have := hletter hf
          dsimp only
          omega
        · exact absurd hf hjoiner

theorem countable_foldr (cs : List Char) : Countable (cs.foldr addBefore (0, .other)) := by
  induction cs with
  | nil => exact ⟨Int.le_refl 0, by simp⟩
  | cons c cs ih => exact countable_addBefore c ih

theorem textColumns_cast (cs : List Char) :
    (textColumns cs : Int) = (cs.foldr addBefore (0, .other)).1 :=
  Int.toNat_of_nonneg (countable_foldr cs).1

/-! ## No text is wider than three columns for each character -/

theorem joined?_le {c : Char} {f f' : Following} {k : Int} (h : joined? c f = some (k, f')) :
    k ≤ 2 := by
  unfold joined? at h
  split at h
  all_goals grind only

theorem addBefore_le (c : Char) (s : Int × Following) : (addBefore c s).1 ≤ s.1 + 3 := by
  have hprinted : printedColumns c ≤ 3 := by
    unfold printedColumns
    split_ifs <;> omega
  unfold addBefore
  cases hj : joined? c s.2 with
  | some j =>
    have := joined?_le hj
    dsimp only
    omega
  | none =>
    dsimp only
    split_ifs <;> dsimp only <;> omega

theorem textColumns_le (cs : List Char) : textColumns cs ≤ 3 * cs.length := by
  have hcast : (textColumns cs : Int) ≤ 3 * cs.length := by
    rw [textColumns_cast]
    induction cs with
    | nil => exact Int.le_refl 0
    | cons c cs ih =>
      have := addBefore_le c (cs.foldr addBefore (0, .other))
      rw [List.foldr_cons, List.length_cons]
      omega
  omega

/-! ## Plain characters -/

/-- A printed character of ASCII. -/
def IsPlain (c : Char) : Prop := 0x20 ≤ c.toNat ∧ c.toNat < 0x7F

theorem inRanges_of_isPlain {c : Char} (h : IsPlain c) {rs : List (Nat × Nat)}
    (hrs : ∀ r ∈ rs, 0x7F ≤ r.1) : inRanges c.toNat rs = false := by
  rw [Bool.eq_false_iff]
  intro hin
  obtain ⟨r, hr, hlo, -⟩ := inRanges_iff.1 hin
  have hr := hrs r hr
  have hc := h.2
  omega

theorem followingOf_of_isPlain {c : Char} (h : IsPlain c) : followingOf c = .other := by
  have hne {d : Char} (hd : 0x7F ≤ d.toNat) : (c == d) = false := by
    rw [beq_eq_false_iff_ne]
    rintro rfl
    exact absurd h.2 (Nat.not_lt.2 hd)
  have hclasses : ∀ p ∈ followingClasses, p.1 c = false := by
    simp only [followingClasses, List.forall_mem_cons]
    refine ⟨hne (by decide), hne (by decide), ?_, ?_, ?_, ?_, hne (by decide), ?_, hne (by decide),
      ?_, ?_, ?_, fun _ hp => nomatch hp⟩
    iterate 7 exact inRanges_of_isPlain h (by decide +kernel)
    · have hc := h.2
      rw [beq_eq_false_iff_ne]
      omega
  rcases followingOf_eq_other_or c with hother | ⟨p, hp, hc, -⟩
  · exact hother
  · rw [hclasses p hp] at hc
    cases hc

theorem columns_of_isPlain {c : Char} (h : IsPlain c) :
    isControl c = false ∧ printedColumns c = 1 ∧ followingOf c = .other := by
  have hlo := h.1
  have hhi := h.2
  have hzero : isZero c = false := by
    simp only [isZero, List.any_cons, List.any_nil, Bool.or_false, Bool.or_eq_false_iff]
    exact ⟨inRanges_of_isPlain h (by decide +kernel), inRanges_of_isPlain h (by decide +kernel)⟩
  have hwide : isWide c = false := by
    simp only [isWide, List.any_cons, List.any_nil, Bool.or_false]
    exact inRanges_of_isPlain h (by decide +kernel)
  have hthree : c ≠ '\u17d8' := by
    rintro rfl
    exact absurd hhi (by decide)
  refine ⟨?_, by simp [printedColumns, hzero, hwide, hthree], followingOf_of_isPlain h⟩
  simp only [isControl, Bool.or_eq_false_iff, Bool.and_eq_false_imp, decide_eq_false_iff_not,
    decide_eq_true_eq]
  omega

/-- Plain characters take one column each. A digit would join with a picture selector behind it,
but among plain characters there is none. -/
theorem textColumns_of_isPlain {cs : List Char} (h : ∀ c ∈ cs, IsPlain c) :
    textColumns cs = cs.length := by
  have hfold : cs.foldr addBefore (0, .other) = ((cs.length : Int), .other) := by
    induction cs with
    | nil => rfl
    | cons c cs ih =>
      rw [List.forall_mem_cons] at h
      obtain ⟨hcontrol, hcolumns, hfollowing⟩ := columns_of_isPlain h.1
      have hline : c ≠ '\n' := by
        rintro rfl
        cases hcontrol
      rw [List.foldr_cons, ih h.2]
      simp [addBefore, joined?, hline, hcontrol, hcolumns, hfollowing]
  rw [textColumns, hfold]
  rfl

/-! ## Characters that join with nothing -/

/-- The character takes one column, whatever follows it, and joins with nothing before it. -/
def StandsAlone (c : Char) : Prop := ∀ s, addBefore c s = (s.1 + 1, .other)

theorem standsAlone_of {c : Char} (hjoined : ∀ f, joined? c f = none)
    (hcontrol : isControl c = false) (hcolumns : printedColumns c = 1)
    (hfollowing : followingOf c = .other) : StandsAlone c := by
  intro s
  have hline : c ≠ '\n' := by
    rintro rfl
    cases hcontrol
  simp [addBefore, hjoined, hline, hcontrol, hcolumns, hfollowing]

/-- A character that stands alone parts a text: its columns are those of the text before it, its own
and those of the text behind it. -/
theorem textColumns_append_cons {c : Char} (h : StandsAlone c) (before after : List Char) :
    textColumns (before ++ c :: after) = textColumns before + 1 + textColumns after := by
  have hfold := foldr_addBefore_add before ((after.foldr addBefore (0, .other)).1 + 1) (0, .other)
  have hcast : (textColumns (before ++ c :: after) : Int) =
      textColumns after + 1 + textColumns before := by
    rw [textColumns_cast, textColumns_cast, textColumns_cast, List.foldr_append, List.foldr_cons, h]
    rw [Int.add_zero] at hfold
    rw [hfold]
  omega

end ProseLint.Text.Width
