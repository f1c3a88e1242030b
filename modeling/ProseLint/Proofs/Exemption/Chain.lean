import ProseLint.Exemption
import ProseLint.Proofs.Syntax.Tree
import ProseLint.Proofs.Text.Pieces

/-!
# Patterns with dots and chains of names

A pattern with dots is matched from the outside: its last segment against the last property of the
callee, and so on inwards, until the first segment has to be the base. `Callee.chain?` goes the
other way. It builds the names of the callee from its base outwards, and knows nothing of patterns.
`covers_ofString_iff_chain` says that a pattern with dots covers a callee exactly if the names of
the callee, joined with dots, are the pattern.
-/

namespace ProseLint

open ProseLint.Syntax (Node Selector)
open ProseLint.Text (stringPieces exists_stringPieces_eq intercalate_stringPieces
  stringPieces_intercalate)

namespace Callee

/-- The name that a key in brackets is, within any parentheses. -/
def keyName? : Node → Option String
  | .identifier _ name => some name
  | .paren _ key => keyName? key
  | _ => none

/-- The name of a property. -/
def propertyName? : Selector Node → Option String
  | .name _ name | .privateName _ name => some name
  | .computed _ key => keyName? key

/-- The names from the base of an expression to its last property, if the base is a name and every
step from it is an access of a named property. -/
def chain? : Node → Option (List String)
  | .identifier _ name => some [name]
  | .paren _ inner => chain? inner
  | .member _ _ object property =>
    (chain? object).bind fun names => (propertyName? property).map fun name => names ++ [name]
  | _ => none

theorem chain?_ne_nil (n : Node) : chain? n ≠ some [] := by
  induction n using Node.parenInduction with
  | parens s inner ih => exact ih
  | other n hn =>
    cases n with
    | paren s inner => exact absurd rfl (hn s inner)
    | member s link object property =>
      simp only [chain?, ne_eq, Option.bind_eq_some_iff, Option.map_eq_some_iff]
      rintro ⟨names, -, name, -, happend⟩
      simp at happend
    | _ => simp [chain?]

theorem name?_eq_keyName? (n : Node) : name? n = keyName? n := by
  induction n using Node.parenInduction with
  | parens s inner ih => exact ih
  | other n hn =>
    cases n with
    | paren s inner => exact absurd rfl (hn s inner)
    | _ => rfl

theorem Access.name?_eq_propertyName? (a : Access) : a.name? = propertyName? a.property := by
  obtain ⟨object, property⟩ := a
  cases property with
  | name | privateName => rfl
  | computed s key => exact name?_eq_keyName? key

/-- A chain of one name is that name. -/
theorem chain?_eq_singleton_iff {n : Node} {name : String} :
    chain? n = some [name] ↔ name? n = some name := by
  induction n using Node.parenInduction with
  | parens s inner ih => exact ih
  | other n hn =>
    cases n with
    | paren s inner => exact absurd rfl (hn s inner)
    | member s link object property =>
      -- the names of the object would have to be none
      have hobject := chain?_ne_nil object
      simp only [chain?, name?, Node.unparenthesized, Option.bind_eq_some_iff,
        Option.map_eq_some_iff, reduceCtorEq, iff_false]
      rintro ⟨names, hnames, last, -, hlast⟩
      obtain rfl : names = [] := by cases names <;> simp_all
      exact hobject hnames
    | _ => simp [chain?, name?, Node.unparenthesized]

/-- A longer chain ends with the property of an access, whose object has the chain before it. -/
theorem chain?_eq_append_iff {n : Node} {names : List String} (hne : names ≠ []) {last : String} :
    chain? n = some (names ++ [last]) ↔
      ∃ a, access? n = some a ∧ a.name? = some last ∧ chain? a.object = some names := by
  induction n using Node.parenInduction with
  | parens s inner ih => exact ih
  | other n hn =>
    cases n with
    | paren s inner => exact absurd rfl (hn s inner)
    | member s link object property =>
      simp only [chain?, access?, Node.unparenthesized, Option.bind_eq_some_iff,
        Option.map_eq_some_iff, Option.some.injEq, exists_eq_left', Access.name?_eq_propertyName?]
      constructor
      · rintro ⟨names', hnames', last', hlast', happend⟩
        obtain ⟨rfl, hsame⟩ := List.append_inj' happend rfl
        obtain rfl := List.singleton_inj.1 hsame
        exact ⟨hlast', hnames'⟩
      · rintro ⟨hlast, hnames⟩
        exact ⟨names, hnames, last, hlast, rfl⟩
    | identifier s name =>
      have : [name] ≠ names ++ [last] := by
        intro h
        cases names <;> simp_all
      simp [chain?, access?, Node.unparenthesized, this]
    | _ => simp [chain?, access?, Node.unparenthesized]

end Callee

open Callee

namespace Pattern

/-- The properties lead down to the base exactly if base and properties are the chain. -/
theorem leadsTo_iff (base : String) (properties : List String) (n : Node) :
    leadsTo base properties n ↔ chain? n = some (base :: properties.reverse) := by
  induction properties generalizing n with
  | nil => simp [leadsTo, chain?_eq_singleton_iff]
  | cons p ps ih =>
    have hreverse : base :: (p :: ps).reverse = (base :: ps.reverse) ++ [p] := by simp
    rw [hreverse, chain?_eq_append_iff (List.cons_ne_nil _ _), leadsTo]
    cases access? n with
    | none => simp
    | some a => simp [ih]

/-- A text with a dot stands for the chain of its pieces. -/
theorem covers_ofString_iff_pieces {text : String} (hdot : '.' ∈ text.toList) (callee : Node) :
    (ofString text).covers callee ↔ chain? callee = some (stringPieces '.' text) := by
  obtain ⟨base, property, properties, hpieces⟩ := exists_stringPieces_eq hdot
  simp only [ofString, hpieces, covers]
  rw [leadsTo_iff, List.reverse_reverse]

end Pattern

/-- A pattern with a dot covers a callee exactly if the callee is a chain of names that joins to the
pattern. Names have no dots in them. -/
theorem covers_ofString_iff_chain {text : String} (hdot : '.' ∈ text.toList) {callee : Node}
    (hnames : ∀ names, chain? callee = some names → ∀ name ∈ names, '.' ∉ name.toList) :
    (Pattern.ofString text).covers callee ↔
      (chain? callee).map (".".intercalate ·) = some text := by
  rw [Pattern.covers_ofString_iff_pieces hdot, Option.map_eq_some_iff]
  constructor
  · intro hchain
    exact ⟨_, hchain, intercalate_stringPieces '.' text⟩
  · rintro ⟨names, hchain, rfl⟩
    have hne : names ≠ [] := by
      rintro rfl
      exact chain?_ne_nil callee hchain
    rw [hchain]
    exact congrArg some (stringPieces_intercalate (hnames names hchain) hne).symm

/-- The callee `((a)?.[(b)]).#c`. -/
def mixedAccesses : Node :=
  .member ⟨0, 15⟩ .plain
    (.paren ⟨0, 12⟩ (.member ⟨1, 11⟩ (.chained true) (.paren ⟨1, 4⟩ (.identifier ⟨2, 3⟩ "a"))
      (.computed ⟨6, 11⟩ (.paren ⟨7, 10⟩ (.identifier ⟨8, 9⟩ "b")))))
    (.privateName ⟨13, 15⟩ "c")

theorem covers_ofString_iff_chain_mixedAccesses :
    '.' ∈ "a.b.c".toList ∧ chain? mixedAccesses = some ["a", "b", "c"] ∧
      (Pattern.ofString "a.b.c").covers mixedAccesses ∧
      ¬ (Pattern.ofString "b.c").covers mixedAccesses ∧
      ¬ (Pattern.ofString "a.b..c").covers mixedAccesses := by
  have hchain : chain? mixedAccesses = some ["a", "b", "c"] := rfl
  have hnames : ∀ names, chain? mixedAccesses = some names → ∀ name ∈ names, '.' ∉ name.toList := by
    intro names h
    obtain rfl := Option.some.inj (hchain.symm.trans h)
    simp
  refine ⟨by simp, hchain, ?_, ?_, ?_⟩
  · exact (covers_ofString_iff_chain (by simp) hnames).2 (by decide)
  · rw [covers_ofString_iff_chain (by simp) hnames]
    decide
  · rw [covers_ofString_iff_chain (by simp) hnames]
    decide

end ProseLint
