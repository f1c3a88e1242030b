import ProseLint.Proofs.Check.Files
import ProseLint.Proofs.Location
import ProseLint.Proofs.Violation.Delimiter

/-!
# Issues stand in the order of the source

A program is not visited in the order of its text: all arguments of a call are looked at before what
is inside of them. But issues are sorted by line and column, and each violation begins at a
delimiter of its own, which takes a column of its own. So of two violations the one that begins
first has the earlier place, no two tie, and reports name the violations of a file in the order of
its text (`issues_in_source_order`).
-/

namespace ProseLint

open ProseLint.Text
open ProseLint.Syntax
open CheckResult (ofPaths)

/-! ## Places of delimiters -/

theorem columnsOf_of_isDelimiter {c : Char} (h : Lexer.isDelimiter c) :
    Location.columnsOf c = 1 := by
  simp only [Lexer.isDelimiter, Bool.or_eq_true, beq_iff_eq] at h
  refine Location.columnsOf_of_isPlain ?_
  rcases h with (rfl | rfl) | rfl <;> exact ⟨by decide, by decide⟩

theorem endsLine_of_isDelimiter {c : Char} (h : Lexer.isDelimiter c) (cs : List Char) :
    Location.endsLine c cs = false := by
  simp only [Lexer.isDelimiter, Bool.or_eq_true, beq_iff_eq] at h
  rcases h with (rfl | rfl) | rfl <;> rfl

/-- Of two delimiters the first in the text has the earlier place. -/
theorem before_of_opensAt {text : List Char} {p q : Nat} (hp : OpensAt text p) (hq : OpensAt text q)
    (h : p < q) : (Location.ofOffset text p).Before (Location.ofOffset text q) := by
  obtain ⟨behind, c, after, rfl, rfl, hc⟩ := hp
  obtain ⟨behind', c', after', heq, rfl, -⟩ := hq
  rcases List.append_eq_append_iff.1 heq with ⟨passed, rfl, hrest⟩ | ⟨passed, rfl, -⟩
  · cases passed with
    | nil => simp at h
    | cons d between =>
      obtain ⟨rfl, rfl⟩ := List.cons.inj hrest
      exact Location.before_ofOffset behind between (c' :: after')
        (by rw [columnsOf_of_isDelimiter hc]; exact Nat.one_pos) (endsLine_of_isDelimiter hc)
  · rw [byteLength_append] at h
    omega

/-! ## The issues of violations -/

section Issues

variable {file : String} {text : List Char} {v w : Violation}

theorem cmp_issueOf
    (h : (Location.ofOffset text v.span.lo).Before (Location.ofOffset text w.span.lo)) :
    Issue.cmp (issueOf file text v) (issueOf file text w) = .lt := by
  rcases h with hline | ⟨hline, hcol⟩
  · simp [Issue.cmp, issueOf, Issue.file, Issue.line?, Issue.place?, compare_lt_iff_lt.2 hline]
  · simp [Issue.cmp, issueOf, Issue.file, Issue.line?, Issue.col?, Issue.place?, hline,
      compare_lt_iff_lt.2 hcol]

theorem le_issueOf
    (h : (Location.ofOffset text v.span.lo).Before (Location.ofOffset text w.span.lo)) :
    Issue.le (issueOf file text v) (issueOf file text w) := by
  rw [Issue.le, cmp_issueOf h]
  rfl

/-- The issue of a violation does not come before that of an earlier one. -/
theorem lo_le_of_le_issueOf (hv : OpensAt text v.span.lo) (hw : OpensAt text w.span.lo)
    (h : Issue.le (issueOf file text v) (issueOf file text w)) : v.span.lo ≤ w.span.lo := by
  rw [← Nat.not_lt]
  intro hlt
  rw [Issue.le, Issue.cmp_swap, cmp_issueOf (before_of_opensAt hw hv hlt)] at h
  cases h

/-- The issues of different violations of a program do not tie. -/
theorem eq_of_ties_issueOf {e : Exemptions} {dialect : Dialect} {source : List Char} {tree : Node}
    (hparse : Program.parse dialect source = .ok tree) (hv : v ∈ violations e tree)
    (hw : w ∈ violations e tree)
    (h : Issue.ties (issueOf file (Program.withoutMark source) v)
      (issueOf file (Program.withoutMark source) w)) : v = w := by
  obtain ⟨hle, hge⟩ := Issue.ties_iff_le_and_le.1 h
  have hopens := opensAt_of_mem_violations hparse hv
  have hopens' := opensAt_of_mem_violations hparse hw
  refine List.inj_on_of_nodup_map (nodup_lo_violations e hparse) hv hw ?_
  exact Nat.le_antisymm (lo_le_of_le_issueOf hopens hopens' hle)
    (lo_le_of_le_issueOf hopens' hopens hge)

end Issues

/-! ## Sorted and repeated items -/

theorem exists_perm_pairwise_lt {α : Type} {f : α → Nat} {l : List α} (h : (l.map f).Nodup) :
    ∃ k : List α, k.Perm l ∧ k.Pairwise (fun a b => f a < f b) := by
  have hperm : (l.mergeSort (f · ≤ f ·)).Perm l := List.mergeSort_perm ..
  refine ⟨_, hperm, ?_⟩
  have hle : (l.mergeSort (f · ≤ f ·)).Pairwise (fun a b => decide (f a ≤ f b)) :=
    List.pairwise_mergeSort (by grind) (by grind) l
  have hne : (l.mergeSort (f · ≤ f ·)).Pairwise (fun a b => f a ≠ f b) :=
    List.pairwise_map.1 ((hperm.map f).nodup_iff.2 h)
  exact (hle.and hne).imp fun hab => Nat.lt_of_le_of_ne (of_decide_eq_true hab.1) hab.2

/-- Some copies of a list hold what it holds with every item repeated as often. -/
theorem flatten_replicate_perm {α β : Type} (f : α → β) (l : List α) (n : Nat) :
    (List.replicate n (l.map f)).flatten.Perm (l.flatMap fun a => List.replicate n (f a)) := by
  induction n with
  | zero => simp
  | succ n ih =>
    have hone := List.flatMap_append_perm l (fun a => [f a]) fun a => List.replicate n (f a)
    rw [← List.map_eq_flatMap] at hone
    exact (List.Perm.append_left (l.map f) ih).trans hone

/-! ## The issues of one file -/

section File

variable {e : Exemptions} {read : String → Except FileError String} {paths : List String}
variable {path source : String} {tree : Node} {inOrder : List Violation}

/-- The issues of a file are those of its violations, as often as it was given. -/
theorem filter_file_issues_perm (hread : read path = .ok source)
    (hparse : Program.parse (Path.dialect path) source.toList = .ok tree)
    (hperm : inOrder.Perm (violations e tree)) :
    ((ofPaths e read paths).issues.filter fun i => i.file == path).Perm
      (inOrder.flatMap fun v => List.replicate (paths.count path)
        (issueOf path (Program.withoutMark source.toList) v)) := by
  have hfile : checkFile e ⟨path, read path⟩ =
      (violations e tree).map (issueOf path (Program.withoutMark source.toList)) := by
    simp only [checkFile, hread, checkSource, hparse]
  rw [CheckResult.issues_ofPaths]
  refine ((Issue.sorted_perm _).filter _).trans ?_
  rw [CheckResult.filter_file_flatMap (fun _ _ => file_of_mem_checkFile) (· == path),
    List.filter_beq, List.flatMap_replicate, hfile]
  exact (flatten_replicate_perm _ _ _).trans (hperm.symm.flatMap_right _)

theorem pairwise_le_flatMap_replicate {file : String} {text : List Char}
    (h : inOrder.Pairwise fun v w =>
      (Location.ofOffset text v.span.lo).Before (Location.ofOffset text w.span.lo)) (n : Nat) :
    (inOrder.flatMap fun v => List.replicate n (issueOf file text v)).Pairwise (Issue.le · ·) := by
  refine List.pairwise_flatMap.2 ⟨fun v _ => ?_, h.imp fun hvw i hi k hk => ?_⟩
  · exact List.pairwise_replicate.2 (.inr (Issue.ties_iff_le_and_le.1 (Issue.ties_self _)).1)
  · rw [List.eq_of_mem_replicate hi, List.eq_of_mem_replicate hk]
    exact le_issueOf hvw

end File

/-- Of two violations of a file the one that begins first has the earlier place, no two begin at the
same place, and reports name them in the order of the text, each as often as the file was given. -/
theorem issues_in_source_order (e : Exemptions) (read : String → Except FileError String)
    (paths : List String) {path source : String} (hread : read path = .ok source) {tree : Node}
    (hparse : Program.parse (Path.dialect path) source.toList = .ok tree) :
    let text := Program.withoutMark source.toList
    (∀ v ∈ violations e tree, ∀ w ∈ violations e tree, v.span.lo < w.span.lo →
      (Location.ofOffset text v.span.lo).Before (Location.ofOffset text w.span.lo) ∧
      Issue.cmp (issueOf path text v) (issueOf path text w) = .lt) ∧
    ∃ inOrder : List Violation, inOrder.Perm (violations e tree) ∧
      inOrder.Pairwise (fun v w => v.span.lo < w.span.lo) ∧
      (ofPaths e read paths).issues.filter (fun i => i.file == path) =
        inOrder.flatMap fun v => List.replicate (paths.count path) (issueOf path text v) := by
  intro text
  have hbefore : ∀ v ∈ violations e tree, ∀ w ∈ violations e tree, v.span.lo < w.span.lo →
      (Location.ofOffset text v.span.lo).Before (Location.ofOffset text w.span.lo) :=
    fun v hv w hw => before_of_opensAt (opensAt_of_mem_violations hparse hv)
      (opensAt_of_mem_violations hparse hw)
  refine ⟨fun v hv w hw hlt => ?_, ?_⟩
  · exact ⟨hbefore v hv w hw hlt, cmp_issueOf (hbefore v hv w hw hlt)⟩
  obtain ⟨inOrder, hperm, hlt⟩ := exists_perm_pairwise_lt (nodup_lo_violations e hparse)
  refine ⟨inOrder, hperm, hlt, ?_⟩
  have hmem : ∀ {v}, v ∈ inOrder → v ∈ violations e tree := hperm.mem_iff.1
  have hplaces : inOrder.Pairwise fun v w =>
      (Location.ofOffset text v.span.lo).Before (Location.ofOffset text w.span.lo) :=
    hlt.imp_of_mem fun hv hw => hbefore _ (hmem hv) _ (hmem hw)
  -- issues of the file that tie are of one violation
  refine (filter_file_issues_perm hread hparse hperm).eq_of_pairwise ?_ ?_
    (pairwise_le_flatMap_replicate hplaces _)
  · intro i k hi hk hik hki
    rw [(filter_file_issues_perm hread hparse hperm).mem_iff] at hi
    obtain ⟨v, hv, hi⟩ := List.mem_flatMap.1 hi
    obtain ⟨w, hw, hk⟩ := List.mem_flatMap.1 hk
    rw [List.eq_of_mem_replicate hi, List.eq_of_mem_replicate hk] at hik hki ⊢
    rw [eq_of_ties_issueOf hparse (hmem hv) (hmem hw) (Issue.ties_iff_le_and_le.2 ⟨hik, hki⟩)]
  · rw [CheckResult.issues_ofPaths]
    exact (Issue.pairwise_sorted _).filter _

/-- A program whose second literal is looked at first, with lines and characters of all widths. -/
def mixedWidths : String := "/*\r\t你\u0301*/f(g(\"One text\"),\r\"Two text\")"

theorem issues_in_source_order_mixedWidths : ∃ tree,
    Program.parse (Path.dialect "a.js") mixedWidths.toList = .ok tree ∧
      (violations {} tree).map (·.span.lo) = [28, 15] ∧
      ∃ inOrder : List Violation, inOrder.map (·.span.lo) = [15, 28] ∧
        (ofPaths {} (fun _ => .ok mixedWidths) ["a.js"]).issues.filter (fun i => i.file == "a.js") =
          inOrder.flatMap fun v => [issueOf "a.js" mixedWidths.toList v] := by
  have heval : (Program.parse (Path.dialect "a.js") mixedWidths.toList).toOption.map
      (fun tree => (violations {} tree).map (·.span.lo)) = some [28, 15] := by
    decide +kernel
  cases hparse : Program.parse (Path.dialect "a.js") mixedWidths.toList with
  | error error =>
    rw [hparse] at heval
    cases heval
  | ok tree =>
    rw [hparse] at heval
    have hstarts : (violations {} tree).map (·.span.lo) = [28, 15] := Option.some.inj heval
    obtain ⟨-, inOrder, hperm, hpairwise, hissues⟩ :=
      issues_in_source_order {} (fun _ => .ok mixedWidths) ["a.js"] rfl hparse
    refine ⟨tree, rfl, hstarts, inOrder, ?_, hissues⟩
    have hlo : (inOrder.map (·.span.lo)).Perm [15, 28] := by
      refine (hperm.map _).trans ?_
      rw [hstarts]
      decide
    rw [← List.pairwise_map] at hpairwise
    exact hlo.eq_of_pairwise (fun _ _ _ _ h h' => absurd h (Nat.lt_asymm h')) hpairwise (by decide)

end ProseLint
