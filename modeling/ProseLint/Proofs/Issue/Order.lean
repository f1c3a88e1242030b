import Mathlib.Data.String.Basic
import ProseLint.Issue

/-!
# The order of issues

Issues are compared by one key after the other, so that their comparison is a total preorder. It is
no order: issues that differ only in their source line or position tie. A sorted list is therefore
not determined by its members alone, but it is by its members and the order of those that tie
(`eq_of_perm_of_pairwise`), and sorting keeps that order (`filter_ties_sorted`).

What the comparison sees of an issue is its outline (`cmp_eq_iff`). The sorted outlines of some
issues depend on the issues alone, the sorted issues only where different issues have different
outlines (`forall_sorted_eq_iff`).
-/

namespace ProseLint.Issue

instance : Std.TransCmp cmp :=
  inferInstanceAs <| Std.TransCmp <|
    compareLex (compareOn file) <| compareLex (compareOn fun i => i.line?.getD 0) <|
    compareLex (compareOn fun i => i.col?.getD 0) <| compareLex (compareOn fun i => i.rule.rank) <|
    compareOn message

theorem cmp_swap (a b : Issue) : cmp b a = (cmp a b).swap := Std.OrientedCmp.eq_swap

theorem le_trans (a b c : Issue) (hab : le a b) (hbc : le b c) : le a c :=
  Std.TransCmp.isLE_trans hab hbc

theorem le_total (a b : Issue) : le a b || le b a := by
  unfold le
  rw [cmp_swap a b]
  cases cmp a b <;> rfl

/-- Neither issue comes before the other. -/
def ties (a b : Issue) : Bool := cmp a b == .eq

theorem ties_iff_le_and_le {a b : Issue} : ties a b ↔ le a b ∧ le b a := by
  unfold ties le
  rw [cmp_swap a b]
  cases cmp a b <;> decide

theorem ties_self (a : Issue) : ties a a := by
  simp [ties, Std.ReflCmp.compare_self]

/-- An issue of an earlier file comes before one of a later file. -/
theorem le_of_file_lt {a b : Issue} (h : a.file < b.file) : le a b := by
  rw [le, cmp, show compare a.file b.file = .lt from compare_lt_iff_lt.2 h]
  rfl

theorem file_eq_of_ties {a b : Issue} (h : ties a b) : a.file = b.file := by
  simp only [ties, cmp, beq_iff_eq, Ordering.then_eq_eq] at h
  exact compare_eq_iff_eq.1 h.1

/-! ## Sorting -/

theorem sorted_perm (issues : List Issue) : (sorted issues).Perm issues :=
  List.mergeSort_perm issues le

theorem sorted_perm_sorted {l m : List Issue} (h : l.Perm m) : (sorted l).Perm (sorted m) :=
  (sorted_perm l).trans (h.trans (sorted_perm m).symm)

theorem pairwise_sorted (issues : List Issue) : (sorted issues).Pairwise (le · ·) :=
  List.pairwise_mergeSort le_trans le_total issues

/-- Sorting keeps the order of issues that tie. -/
theorem filter_ties_sorted (a : Issue) (issues : List Issue) :
    (sorted issues).filter (ties a) = issues.filter (ties a) := by
  have hpairwise : (issues.filter (ties a)).Pairwise (le · ·) := by
    refine List.pairwise_of_forall_mem_list fun b hb c hc => ?_
    have hb := (ties_iff_le_and_le.1 (List.mem_filter.1 hb).2).2
    have hc := (ties_iff_le_and_le.1 (List.mem_filter.1 hc).2).1
    exact le_trans b a c hb hc
  have hsublist := (List.sublist_mergeSort le_trans le_total hpairwise
    (List.filter_sublist (p := ties a))).filter (ties a)
  simp only [List.filter_filter, Bool.and_self] at hsublist
  exact (hsublist.eq_of_length ((sorted_perm issues).filter _).length_eq.symm).symm

/-- Two sorted lists of the same issues are equal if those that tie stand in the same order. -/
theorem eq_of_perm_of_pairwise {l m : List Issue} (hperm : l.Perm m) (hl : l.Pairwise (le · ·))
    (hm : m.Pairwise (le · ·)) (hties : ∀ a, l.filter (ties a) = m.filter (ties a)) : l = m := by
  induction l generalizing m with
  | nil => exact hperm.nil_eq
  | cons a l ih =>
    cases m with
    | nil => exact absurd hperm.symm.nil_eq (by simp)
    | cons b m =>
      -- each head is among the other list, so the heads tie and are the first that do
      have hab : le a b := by
        rcases List.mem_cons.1 (hperm.mem_iff.2 (List.mem_cons_self (a := b))) with rfl | hb
        · exact (ties_iff_le_and_le.1 (ties_self b)).1
        · exact List.rel_of_pairwise_cons hl hb
      have hba : le b a := by
        rcases List.mem_cons.1 (hperm.mem_iff.1 (List.mem_cons_self (a := a))) with rfl | ha
        · exact (ties_iff_le_and_le.1 (ties_self a)).1
        · exact List.rel_of_pairwise_cons hm ha
      have hhead := hties a
      rw [List.filter_cons_of_pos (ties_self a),
        List.filter_cons_of_pos (ties_iff_le_and_le.2 ⟨hab, hba⟩)] at hhead
      obtain ⟨rfl, -⟩ := List.cons.inj hhead
      congr 1
      refine ih hperm.cons_inv hl.of_cons hm.of_cons fun c => ?_
      have htail := hties c
      by_cases hc : ties c a
      · rw [List.filter_cons_of_pos hc, List.filter_cons_of_pos hc] at htail
        exact (List.cons.inj htail).2
      · rwa [List.filter_cons_of_neg hc, List.filter_cons_of_neg hc] at htail

/-! ## Outlines -/

/-- The issue without its source line and its position. -/
def outline : Issue → Issue
  | english place text _ => english { place with sourceLine := "" } text .assignment
  | unparsed file error => unparsed file error

theorem outline_outline (i : Issue) : i.outline.outline = i.outline := by
  cases i <;> rfl

theorem cmp_outline (a b : Issue) : cmp a.outline b.outline = cmp a b := by
  cases a <;> cases b <;> rfl

/-- The comparison takes issues as equal exactly if they differ at most in their source line and
their position. -/
theorem cmp_eq_iff {a b : Issue} : cmp a b = .eq ↔ a.outline = b.outline := by
  constructor
  · intro h
    simp only [cmp, Ordering.then_eq_eq, compare_eq_iff_eq] at h
    obtain ⟨hfile, hline, hcol, hrule, hmessage⟩ := h
    cases a with
    | english place text position =>
      cases b with
      | english place' text' position' => simp_all [outline, file, line?, col?, place?, message]
      | unparsed file error => cases hrule
    | unparsed file error =>
      cases b with
      | english place text position => cases hrule
      | unparsed file' error' => simp_all [outline, Issue.file, message]
  · intro h
    rw [← cmp_outline, h]
    exact Std.ReflCmp.compare_self

theorem ties_iff_outline_eq {a b : Issue} : ties a b ↔ a.outline = b.outline := by
  rw [ties, beq_iff_eq, cmp_eq_iff]

/-- Different issues of the list have different outlines. -/
def DistinctOutlines (issues : List Issue) : Prop :=
  ∀ a ∈ issues, ∀ b ∈ issues, a.outline = b.outline → a = b

instance (issues : List Issue) : Decidable (DistinctOutlines issues) :=
  inferInstanceAs (Decidable (∀ a ∈ issues, ∀ b ∈ issues, _ → _))

/-- The outlines of some issues come in the same order, in whatever order the issues were. -/
theorem map_outline_sorted {l m : List Issue} (h : l.Perm m) :
    (sorted l).map outline = (sorted m).map outline := by
  have hpairwise (issues : List Issue) : ((sorted issues).map outline).Pairwise (le · ·) := by
    rw [List.pairwise_map]
    refine (pairwise_sorted issues).imp fun hab => ?_
    rwa [le, cmp_outline]
  refine List.Perm.eq_of_pairwise ?_ (hpairwise l) (hpairwise m)
    ((sorted_perm_sorted h).map outline)
  intro a b ha hb hab hba
  obtain ⟨a, -, rfl⟩ := List.mem_map.1 ha
  obtain ⟨b, -, rfl⟩ := List.mem_map.1 hb
  have hties := ties_iff_outline_eq.1 (ties_iff_le_and_le.2 ⟨hab, hba⟩)
  rwa [outline_outline, outline_outline] at hties

theorem sorted_eq_of_perm {l m : List Issue} (h : l.Perm m) (hm : DistinctOutlines m) :
    sorted l = sorted m := by
  refine List.Perm.eq_of_pairwise ?_ (pairwise_sorted l) (pairwise_sorted m)
    (sorted_perm_sorted h)
  intro a b ha hb hab hba
  have ha : a ∈ m := ((sorted_perm l).trans h).mem_iff.1 ha
  have hb : b ∈ m := (sorted_perm m).mem_iff.1 hb
  exact hm a ha b hb (ties_iff_outline_eq.1 (ties_iff_le_and_le.2 ⟨hab, hba⟩))

/-- The sorted list depends on the issues alone, and not on the order in which they are given,
exactly if different issues have different outlines. -/
theorem forall_sorted_eq_iff {issues : List Issue} :
    (∀ others, others.Perm issues → sorted others = sorted issues) ↔ DistinctOutlines issues := by
  refine ⟨fun h a ha b hb hab => ?_, fun h others hperm => sorted_eq_of_perm hperm h⟩
  by_contra hne
  -- put first in either order, the two issues stay in that order
  have hb : b ∈ issues.erase a := (List.mem_erase_of_ne (Ne.symm hne)).2 hb
  have hperm : (a :: b :: (issues.erase a).erase b).Perm issues :=
    ((List.perm_cons_erase hb).symm.cons a).trans (List.perm_cons_erase ha).symm
  have hswap : (b :: a :: (issues.erase a).erase b).Perm issues := (List.Perm.swap ..).trans hperm
  have hfilter := congrArg (List.filter (ties a)) ((h _ hperm).trans (h _ hswap).symm)
  have hties : ties a b := ties_iff_outline_eq.2 hab
  rw [filter_ties_sorted, filter_ties_sorted, List.filter_cons_of_pos (ties_self a),
    List.filter_cons_of_pos hties, List.filter_cons_of_pos hties] at hfilter
  exact hne (List.cons.inj hfilter).1

end ProseLint.Issue
