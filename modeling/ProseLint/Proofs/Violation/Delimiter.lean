import ProseLint.Proofs.Syntax.Program
import ProseLint.Proofs.Violation.Distinct

/-!
# Violations begin at different delimiters

A violation has the span of the literal that shows English text, and no literal is reported more
often than it occurs. The literals of a parsed program begin at different delimiters of its text, so
a quote or backtick stands where a violation begins (`opensAt_of_mem_violations`), and no two
violations begin at the same (`nodup_lo_violations`).
-/

namespace ProseLint

open ProseLint.Syntax

variable {e : Exemptions} {dialect : Dialect} {source : List Char} {tree : Node}

/-- A violation of a parsed program begins at the delimiter of a literal. -/
theorem opensAt_of_mem_violations {v : Violation} (hparse : Program.parse dialect source = .ok tree)
    (hv : v ∈ violations e tree) : OpensAt (Program.withoutMark source) v.span.lo := by
  refine Program.opensAt_of_mem_literalSpans hparse ?_
  exact (map_span_violations_subperm_literalSpans e tree).subset (List.mem_map_of_mem hv)

/-- The violations of a parsed program begin at different places. -/
theorem nodup_lo_violations (e : Exemptions) (hparse : Program.parse dialect source = .ok tree) :
    ((violations e tree).map (·.span.lo)).Nodup := by
  obtain ⟨spans, hperm, hsublist⟩ := map_span_violations_subperm_literalSpans e tree
  have hspans : (spans.map (·.lo)).Nodup :=
    (hsublist.map _).nodup (Program.nodup_lo_literalSpans hparse)
  rw [(hperm.map (·.lo)).nodup_iff, List.map_map] at hspans
  exact hspans

end ProseLint
