import ProseLint.Proofs.Syntax.Grammar
import ProseLint.Syntax.Program

/-!
# Literals of a parsed program

The rules of the grammar account for their literals at every depth, so a program has at most one
literal for each delimiter of the text that was parsed. Hence every string and every template begins
with the quote or backtick that opens it (`Program.opensAt_of_mem_literalSpans`), and no two of them
begin at the same place (`Program.nodup_lo_literalSpans`).
-/

namespace ProseLint.Syntax

open ProseLint.Syntax.Parser
open ProseLint.Text (Span)
open Counted (count)

variable {spot : Spot} {stock : Nat}

namespace Grammar

instance {rec : Grammar} [∀ stock goal, Accounts spot stock (rec goal)] (goal : Goal) :
    Accounts spot stock (rule rec goal) := by
  cases goal <;> unfold rule <;> infer_instance

instance (depth : Nat) (goal : Goal) : Accounts spot stock (toDepth depth goal) := by
  induction depth generalizing stock goal with
  | zero => exact inferInstanceAs (Accounts spot stock fail)
  | succ depth _ => exact inferInstanceAs (Accounts spot stock (rule (toDepth depth) goal))

instance {grammar : Grammar} [∀ stock goal, Accounts spot stock (grammar goal)] :
    Accounts spot stock (statements grammar) := by
  unfold statements
  infer_instance

end Grammar

namespace Program

theorem leads_firstPlace (text : List Char) : (Cursor.ofText text).Leads (firstPlace text) := by
  unfold firstPlace
  dsimp only
  split
  · exact Cursor.leads_dropWhile ..
  · exact .refl _

variable {dialect : Dialect} {source : List Char} {tree : Node}

/-- One literal begins at a spot if a delimiter stands there, else none. -/
theorem count_le_ahead (hparse : parse dialect source = .ok tree)
    (hspot : withoutMark source = spot.text) : count spot tree ≤ ahead spot 0 := by
  unfold parse at hparse
  dsimp only at hparse
  rw [hspot] at hparse
  split at hparse
  · next items state hok =>
    cases hparse
    have hstanding := standing_stateAt (leads_firstPlace spot.text) true
    have hitems := ((inferInstance : Accounts spot 0 _).run hstanding hok).2
    calc count spot (Node.construct .program _ items)
        = count spot items := Node.count_construct ..
      _ ≤ ahead spot (stateAt (firstPlace spot.text) true).start.offset := by omega
      _ ≤ ahead spot 0 := ahead_le_of_le (Nat.zero_le _)
  · cases hparse

/-- Every string and template of a parsed program begins at a delimiter. -/
theorem opensAt_of_mem_literalSpans (hparse : parse dialect source = .ok tree) {span : Span}
    (hspan : span ∈ tree.literalSpans) : OpensAt (withoutMark source) span.lo := by
  have hle : count ⟨withoutMark source, span.lo⟩ tree ≤ ahead _ 0 := count_le_ahead hparse rfl
  have hpos : 0 < count ⟨withoutMark source, span.lo⟩ tree :=
    List.countP_pos_iff.2 ⟨span, hspan, beq_self_eq_true _⟩
  unfold ahead at hle
  split at hle
  · next hopens => exact hopens.2
  · omega

/-- No two strings or templates of a parsed program begin at the same place. -/
theorem nodup_lo_literalSpans (hparse : parse dialect source = .ok tree) :
    (tree.literalSpans.map (·.lo)).Nodup := by
  rw [List.nodup_iff_count]
  intro offset
  calc (tree.literalSpans.map (·.lo)).count offset
      = count ⟨withoutMark source, offset⟩ tree := by
        rw [List.count_eq_countP, List.countP_map]
        rfl
    _ ≤ ahead ⟨withoutMark source, offset⟩ 0 := count_le_ahead hparse rfl
    _ ≤ 1 := by unfold ahead; split <;> omega

end Program

end ProseLint.Syntax
