import ProseLint.Proofs.Syntax.Lexer
import ProseLint.Proofs.Syntax.Tree
import ProseLint.Syntax.Parser

/-!
# Literals are taken out of a stock

A literal is made where the delimiter that opens it is passed, and may go through many values before
it is part of a tree. That no delimiter makes two literals is shown for one `Spot` of the text at a
time: `count` says how many literals of a value begin there, and `ahead` is one until a delimiter
there is passed. Values are put together from what is at hand, the stock, and each part is taken out
of it (`Takes`), so that no part can be used twice. What can be taken out of a stock is left to
instance search.
-/

namespace ProseLint.Syntax

open ProseLint.Text (Span byteLength)
open Lexer (isDelimiter)

/-! ## Delimiters ahead -/

/-- A delimiter stands at the offset. -/
def OpensAt (text : List Char) (offset : Nat) : Prop :=
  ∃ before delimiter after, text = before ++ delimiter :: after ∧ byteLength before = offset ∧
    isDelimiter delimiter

/-- An offset of a text, at which a literal may begin. -/
structure Spot where
  text : List Char
  offset : Nat

open Classical in
/-- One if a delimiter stands at the spot and is not behind the place, else zero. -/
noncomputable def ahead (spot : Spot) (place : Nat) : Nat :=
  if place ≤ spot.offset ∧ OpensAt spot.text spot.offset then 1 else 0

/-- One if a literal that begins at `lo` begins at the spot, else zero. -/
def begins (spot : Spot) (lo : Nat) : Nat := if lo = spot.offset then 1 else 0

variable {spot : Spot}

theorem ahead_le_of_le {m n : Nat} (h : m ≤ n) : ahead spot n ≤ ahead spot m := by
  unfold ahead
  split
  · next hn => simp [Nat.le_trans h hn.1, hn.2]
  · exact Nat.zero_le _

/-- Passing a delimiter leaves one literal. -/
theorem begins_add_ahead_le {m n : Nat} (hopens : OpensAt spot.text m) (h : m < n) :
    begins spot m + ahead spot n ≤ ahead spot m := by
  unfold begins
  split
  · next heq =>
    subst heq
    simp [ahead, hopens, Nat.not_le.2 h]
  · rw [Nat.zero_add]
    exact ahead_le_of_le (Nat.le_of_lt h)

/-! ## Values -/

/-- Types whose values may hold literals. -/
class Counted (α : Type) where
  /-- How many literals in a value begin at the spot. -/
  count : Spot → α → Nat

open Counted (count)

/-- Types whose values hold no literals. -/
class Plain (α : Type) : Prop

instance : Plain Unit := ⟨⟩
instance : Plain Bool := ⟨⟩
instance : Plain Nat := ⟨⟩
instance : Plain String := ⟨⟩
instance : Plain Span := ⟨⟩
instance : Plain Token := ⟨⟩
instance : Plain Cursor := ⟨⟩
instance : Plain Context := ⟨⟩
instance : Plain ParserState := ⟨⟩
instance (α : Type) : Plain (Parser α) := ⟨⟩
instance (α : Type) [Plain α] : Plain (Option α) := ⟨⟩
instance (α β : Type) [Plain α] [Plain β] : Plain (α × β) := ⟨⟩

/-- Types whose values may be parts of a tree. -/
class Bearing (α : Type) : Prop

instance : Bearing Node := ⟨⟩
instance (α : Type) [Bearing α] : Bearing (Selector α) := ⟨⟩
instance (α : Type) [Bearing α] : Bearing (List α) := ⟨⟩
instance (α : Type) [Bearing α] : Bearing (Option α) := ⟨⟩

section Values

variable {α β σ : Type}

instance (priority := low) [Plain α] : Counted α := ⟨fun _ _ => 0⟩
instance : Counted Node := ⟨fun spot n => n.literalSpans.countP (·.lo == spot.offset)⟩
instance [Counted α] : Counted (List α) := ⟨fun spot l => l.foldr (count spot · + ·) 0⟩
instance [Counted α] : Counted (Option α) := ⟨fun spot o => (o.map (count spot)).getD 0⟩
instance [Counted α] : Counted (Selector α) := ⟨fun spot s => count spot s.parts⟩
instance [Counted α] [Counted β] : Counted (α × β) :=
  ⟨fun spot p => count spot p.1 + count spot p.2⟩
instance [Counted σ] [Counted α] : Counted (Parser.Step σ α) where
  count spot
    | .more s => count spot s
    | .done a => count spot a

theorem count_pair [Counted α] [Counted β] (a : α) (b : β) :
    count spot (a, b) = count spot a + count spot b := rfl

theorem count_nil [Counted α] : count spot ([] : List α) = 0 := rfl

theorem count_cons [Counted α] (a : α) (l : List α) :
    count spot (a :: l) = count spot a + count spot l := rfl

theorem count_append [Counted α] (k l : List α) :
    count spot (k ++ l) = count spot k + count spot l := by
  induction k with
  | nil => rw [List.nil_append, count_nil, Nat.zero_add]
  | cons a k ih => rw [List.cons_append, count_cons, count_cons, ih, Nat.add_assoc]

theorem count_reverse [Counted α] (l : List α) : count spot l.reverse = count spot l := by
  induction l with
  | nil => rfl
  | cons a l ih => rw [List.reverse_cons, count_append, ih, Nat.add_comm]; rfl

theorem Node.count_eq (n : Node) :
    count spot n = (if n.isLiteral then begins spot n.span.lo else 0) +
      count spot n.children := by
  have hflat : ∀ l : List Node,
      (l.flatMap literalSpans).countP (·.lo == spot.offset) = count spot l := by
    intro l
    induction l with
    | nil => rfl
    | cons m l ih => rw [List.flatMap_cons, List.countP_append, ih]; rfl
  have hcount : count spot n = n.literalSpans.countP (·.lo == spot.offset) := rfl
  rw [hcount, literalSpans_eq, List.countP_append, hflat]
  congr 1
  cases hn : n.isLiteral <;> simp [hn, begins]

theorem Node.count_construct (kind : Construct) (span : Span) (members : List Node) :
    count spot (construct kind span members) = count spot members := by
  simp [Node.count_eq, isLiteral, children]

/-! ## Taking values out of a stock -/

/-- The value can be taken out of the stock, which leaves the rest. -/
class Takes [Counted α] (spot : Spot) (a : α) (stock : Nat) (rest : outParam Nat) : Prop where
  le : count spot a + rest ≤ stock

theorem Takes.of_le [Counted α] [Counted β] {spot : Spot} {a : α} {b : β} {stock rest : Nat}
    (h : Takes spot a stock rest) (hle : count spot b ≤ count spot a) :
    Takes spot b stock rest :=
  ⟨Nat.le_trans (Nat.add_le_add_right hle rest) h.le⟩

/-- The value is one of those that the stock was put together from. A class of its own keeps the
search through a stock apart from the search through the parts of a value. -/
class Holds [Counted α] (spot : Spot) (a : α) (stock : Nat) (rest : outParam Nat) : Prop where
  le : count spot a + rest ≤ stock

section Stock

variable [Counted α] [Counted β] {stock rest rest' rest'' : Nat}

instance (a : α) : Holds spot a (count spot a + stock) stock := ⟨Nat.le_refl _⟩
instance (a : α) : Holds spot a (count spot a) 0 := ⟨Nat.le_refl _⟩
instance (a : α) : Holds spot a (count spot (some a) + stock) stock := ⟨Nat.le_refl _⟩
instance (a : α) : Holds spot a (count spot [a] + stock) stock := ⟨by simp [count]⟩

instance (priority := low) (a : α) (n : Nat) [h : Holds spot a stock rest] :
    Holds spot a (n + stock) (n + rest) := by
  have := h.le
  exact ⟨by omega⟩

instance (priority := low) (a : α) [h : Holds spot a stock rest] : Takes spot a stock rest :=
  ⟨h.le⟩

instance (priority := low) {γ : Type} [Plain γ] (c : γ) : Takes spot c stock stock :=
  ⟨Nat.le_of_eq (Nat.zero_add _)⟩

theorem count_plain {γ : Type} [Plain γ] (l : List γ) : count spot l = 0 := by
  simp [count]

instance (priority := low) {γ : Type} [Plain γ] (l : List γ) : Takes spot l stock stock :=
  ⟨Nat.le_of_eq (by rw [count_plain, Nat.zero_add])⟩

instance : Takes spot ([] : List α) stock stock := ⟨by simp [count]⟩

instance (a : α) (l : List α) [ha : Takes spot a stock rest] [hl : Takes spot l rest rest'] :
    Takes spot (a :: l) stock rest' := by
  have := ha.le
  have := hl.le
  exact ⟨by rw [count_cons]; omega⟩

instance (k l : List α) [hk : Takes spot k stock rest] [hl : Takes spot l rest rest'] :
    Takes spot (k ++ l) stock rest' := by
  have := hk.le
  have := hl.le
  exact ⟨by rw [count_append]; omega⟩

instance (l : List α) [hl : Takes spot l stock rest] : Takes spot l.reverse stock rest :=
  ⟨by rw [count_reverse]; exact hl.le⟩

instance : Takes spot (none : Option α) stock stock := ⟨by simp [count]⟩
instance (a : α) [ha : Takes spot a stock rest] : Takes spot (some a) stock rest := ⟨ha.le⟩

instance (o : Option α) [ho : Takes spot o stock rest] : Takes spot o.toList stock rest := by
  have := ho.le
  cases o with
  | none => exact ⟨this⟩
  | some a => exact ⟨by simpa [count] using this⟩

instance (o : Option (List α)) [ho : Takes spot o stock rest] :
    Takes spot (o.getD []) stock rest := by
  cases o <;> exact ⟨ho.le⟩

instance (a : α) (b : β) [ha : Takes spot a stock rest] [hb : Takes spot b rest rest'] :
    Takes spot (a, b) stock rest' := by
  have := ha.le
  have := hb.le
  exact ⟨by rw [count_pair]; omega⟩

instance [Counted σ] (s : σ) [hs : Takes spot s stock rest] :
    Takes spot (Parser.Step.more s : Parser.Step σ α) stock rest :=
  ⟨hs.le⟩

instance [Counted σ] (a : α) [ha : Takes spot a stock rest] :
    Takes spot (Parser.Step.done a : Parser.Step σ α) stock rest :=
  ⟨ha.le⟩

end Stock

/-! ## Trees -/

section Nodes

variable {stock rest rest' rest'' : Nat} (span : Span) (n m : Node) (k l : List Node)
variable (s : Selector Node)

/-- A node that is no literal is no more than its children. -/
theorem Node.takes_of_children {n : Node} (hn : n.isLiteral = false)
    (h : Takes spot n.children stock rest) : Takes spot n stock rest :=
  ⟨by rw [Node.count_eq, hn]; simpa using h.le⟩

instance (x : String) : Takes spot (Selector.name (α := Node) span x) stock stock :=
  ⟨Nat.le_of_eq (Nat.zero_add _)⟩
instance (x : String) : Takes spot (Selector.privateName (α := Node) span x) stock stock :=
  ⟨Nat.le_of_eq (Nat.zero_add _)⟩
instance [hn : Takes spot n stock rest] : Takes spot (Selector.computed span n) stock rest :=
  ⟨(inferInstance : Takes spot [n] stock rest).le⟩

instance (x : String) : Takes spot (Node.identifier span x) stock stock :=
  Node.takes_of_children rfl (inferInstanceAs (Takes spot [] stock stock))
instance (x : String) : Takes spot (Node.propertyName span x) stock stock :=
  Node.takes_of_children rfl (inferInstanceAs (Takes spot [] stock stock))
instance (x : String) : Takes spot (Node.privateName span x) stock stock :=
  Node.takes_of_children rfl (inferInstanceAs (Takes spot [] stock stock))

section One

variable [Takes spot n stock rest]

instance : Takes spot (Node.paren span n) stock rest :=
  Node.takes_of_children rfl (inferInstanceAs (Takes spot [n] stock rest))
instance : Takes spot (Node.computed span n) stock rest :=
  Node.takes_of_children rfl (inferInstanceAs (Takes spot [n] stock rest))
instance : Takes spot (Node.spread span n) stock rest :=
  Node.takes_of_children rfl (inferInstanceAs (Takes spot [n] stock rest))
instance : Takes spot (Node.returns span n) stock rest :=
  Node.takes_of_children rfl (inferInstanceAs (Takes spot [n] stock rest))
instance : Takes spot (Node.statement span n) stock rest :=
  Node.takes_of_children rfl (inferInstanceAs (Takes spot [n] stock rest))

variable [Takes spot m rest rest']

instance (op : String) : Takes spot (Node.assign span op n m) stock rest' :=
  Node.takes_of_children rfl (inferInstanceAs (Takes spot [n, m] stock rest'))
instance (op : LogicalOp) : Takes spot (Node.logical span op n m) stock rest' :=
  Node.takes_of_children rfl (inferInstanceAs (Takes spot [n, m] stock rest'))
instance : Takes spot (Node.declarator span n m) stock rest' :=
  Node.takes_of_children rfl (inferInstanceAs (Takes spot [n, m] stock rest'))

end One

instance (link : Link) [Takes spot n stock rest] [Takes spot k rest rest']
    [Takes spot l rest' rest''] : Takes spot (Node.call span link n k l) stock rest'' :=
  Node.takes_of_children rfl (inferInstanceAs (Takes spot (n :: (k ++ l)) stock rest''))
instance (link : Link) [Takes spot n stock rest] [hs : Takes spot s rest rest'] :
    Takes spot (Node.member span link n s) stock rest' :=
  have : Takes spot s.parts rest rest' := ⟨hs.le⟩
  Node.takes_of_children rfl (inferInstanceAs (Takes spot (n :: s.parts) stock rest'))
instance (kind : Construct) [hk : Takes spot k stock rest] :
    Takes spot (Node.construct kind span k) stock rest :=
  Node.takes_of_children rfl hk

instance (kind : Construct) :
    Holds spot k (count spot (Node.construct kind span k) + stock) stock :=
  ⟨Nat.le_of_eq (by rw [Node.count_construct])⟩
instance (chunks : List String) :
    Holds spot k (count spot (Node.template span chunks k) + stock) stock :=
  ⟨by simp [Node.count_eq (.template span chunks k), Node.children, Nat.add_assoc]⟩

-- A literal is taken out of a stock for which its delimiter was passed.
instance (value : String) :
    Takes spot (Node.string span value) (begins spot span.lo + stock) stock :=
  ⟨by simp [Node.count_eq, Node.isLiteral, Node.span, Node.children, count_nil]⟩

instance (lo hi : Nat) (chunks : List String) [h : Takes spot k stock (begins spot lo)] :
    Takes spot (Node.template ⟨lo, hi⟩ chunks k) stock 0 := by
  have := h.le
  refine ⟨?_⟩
  simp only [Node.count_eq (.template _ _ _), Node.isLiteral, Node.span, Node.children, if_true]
  omega

end Nodes

end Values

end ProseLint.Syntax
