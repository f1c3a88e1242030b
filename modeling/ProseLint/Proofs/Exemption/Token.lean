import ProseLint.Proofs.Exemption.Chain
import ProseLint.Proofs.Violation.Slots

/-!
# Patterns without dots and the properties that callees access

A pattern without a dot covers every callee that accesses a property of that name, whatever the
object is, but not on `super`: there an access is a node of its own, which no pattern covers and no
built-in exemption knows (`Exemptions.exempt_eq_false_of_isSuperAccess`). `Callee.Accesses` takes
both kinds of access as one, and `exempt_iff_of_token_of_accesses` says where the difference shows.
-/

namespace ProseLint

open ProseLint.Syntax (Node Selector)

namespace Callee

/-- The expression is, within any parentheses, an access of a property of this name: on an object,
plain or in an optional chain, or on `super`. -/
inductive Accesses : Node → String → Prop where
  | member {span link object property name} : propertyName? property = some name →
    Accesses (.member span link object property) name
  | superName {span inner name} :
    Accesses (.construct .superMember span [.propertyName inner name]) name
  | superKey {span brackets key name} : keyName? key = some name →
    Accesses (.construct .superMember span [.computed brackets key]) name
  | paren {span inner name} : Accesses inner name → Accesses (.paren span inner) name

/-- Is the expression, within any parentheses, an access on `super`? -/
def isSuperAccess (n : Node) : Bool :=
  match n.unparenthesized with
  | .construct .superMember _ _ => true
  | _ => false

theorem name?_access?_of_isSuperAccess {n : Node} (h : isSuperAccess n) :
    name? n = none ∧ access? n = none := by
  unfold isSuperAccess at h
  split at h
  · next heq => simp [name?, access?, heq]
  · cases h

/-- An access that is not on `super` is recognised with the name of its property. -/
theorem Accesses.exists_access? {n : Node} {name : String} (h : Accesses n name)
    (hsuper : isSuperAccess n = false) : ∃ a, access? n = some a ∧ a.name? = some name := by
  induction h with
  | member hname => exact ⟨_, rfl, (Access.name?_eq_propertyName? _).trans hname⟩
  | superName | superKey => cases hsuper
  | paren _ ih => exact ih hsuper

end Callee

open Callee

theorem Pattern.covers_token_of_access? {callee : Node} {a : Access} {name : String}
    (ha : access? callee = some a) (hname : a.name? = some name) :
    (Pattern.token name).covers callee := by
  simp [covers, ha, hname]

theorem Pattern.leadsTo_eq_false {n : Node} (hname : name? n = none) (haccess : access? n = none)
    (base : String) (properties : List String) : leadsTo base properties n = false := by
  cases properties with
  | nil => simp [leadsTo, hname]
  | cons => simp [leadsTo, haccess]

/-- What is neither a name nor an access is covered by no pattern. -/
theorem Pattern.covers_eq_false {n : Node} (hname : name? n = none) (haccess : access? n = none)
    (p : Pattern) : p.covers n = false := by
  cases p with
  | token name => simp [covers, hname, haccess]
  | path base properties => exact leadsTo_eq_false hname haccess base properties.reverse

/-- Calls on `super` are never left alone. -/
theorem Exemptions.exempt_eq_false_of_isSuperAccess (e : Exemptions) {callee : Node}
    (h : isSuperAccess callee) : e.exempt callee = false := by
  obtain ⟨hname, haccess⟩ := name?_access?_of_isSuperAccess h
  have hpatterns : (e.patterns.any fun p => p.covers callee) = false := by
    rw [List.any_eq_false]
    intro p _
    rw [Pattern.covers_eq_false hname haccess p]
    exact Bool.false_ne_true
  have hbuiltin : isBuiltinExempt callee = false := by simp [isBuiltinExempt, hname, haccess]
  rw [exempt, hpatterns, hbuiltin, Bool.or_false]

theorem Exemptions.exempt_of_mem {e : Exemptions} {p : Pattern} (hp : p ∈ e.patterns)
    {callee : Node} (h : p.covers callee) : e.exempt callee := by
  rw [exempt, Bool.or_eq_true, List.any_eq_true]
  exact .inr ⟨p, hp, h⟩

/-- Where the name of a property is excluded, calls of the property are left alone, whatever the
object is and however the property is written, but for those on `super`: their arguments are looked
at like those of any other call. -/
theorem exempt_iff_of_token_of_accesses {e : Exemptions} {name : String}
    (hname : .token name ∈ e.patterns) {callee : Node} (h : Accesses callee name) :
    (e.exempt callee ↔ ¬ isSuperAccess callee) ∧
    ∀ span link args types, slots e (.call span link callee args types) =
      if isSuperAccess callee then (args.filter isValue).map (Slot.mk .callArgument) else [] := by
  cases hsuper : isSuperAccess callee with
  | true =>
    have hexempt := e.exempt_eq_false_of_isSuperAccess hsuper
    exact ⟨by simp [hexempt], fun span link args types => by simp [slots, hexempt]⟩
  | false =>
    obtain ⟨a, ha, haname⟩ := h.exists_access? hsuper
    have hexempt := Exemptions.exempt_of_mem hname (Pattern.covers_token_of_access? ha haname)
    exact ⟨by simp [hexempt], fun span link args types => by simp [slots, hexempt]⟩

/-- The callee `super.t`. -/
def superMethod : Node := .construct .superMember ⟨0, 7⟩ [.propertyName ⟨6, 7⟩ "t"]

/-- The callee `(f()?.[(t)])`. -/
def chainedMethod : Node :=
  .paren ⟨0, 12⟩ (.member ⟨1, 11⟩ (.chained true)
    (.call ⟨1, 4⟩ .plain (.identifier ⟨1, 2⟩ "f") [] [])
    (.computed ⟨6, 11⟩ (.paren ⟨7, 10⟩ (.identifier ⟨8, 9⟩ "t"))))

theorem exempt_iff_of_token_of_accesses_super :
    let e := Exemptions.ofStrings ["a.b", "t"]
    .token "t" ∈ e.patterns ∧ Accesses superMethod "t" ∧ Accesses chainedMethod "t" ∧
      ¬ e.exempt superMethod ∧ e.exempt chainedMethod := by
  intro e
  have htoken : .token "t" ∈ e.patterns := by decide
  have hsuper : Accesses superMethod "t" := .superName
  have hchained : Accesses chainedMethod "t" := .paren (.member rfl)
  refine ⟨htoken, hsuper, hchained, ?_, ?_⟩
  · rw [(exempt_iff_of_token_of_accesses htoken hsuper).1]
    decide
  · rw [(exempt_iff_of_token_of_accesses htoken hchained).1]
    decide

end ProseLint
