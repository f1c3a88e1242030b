import ProseLint.Proofs.Syntax.Account
import ProseLint.Syntax.Grammar.Statement

/-!
# The rules of the grammar account for their literals

Each rule of the grammar accounts for its literals if the parser to which it hands the goals below
it does. Most rules are put together from others in ways that instance search knows; where a rule
goes on by what it has read, its proof splits the cases first.

A string is made behind the token that it is, and a template behind its backtick, before any of its
holes (`accountsFrom_template`). What was read as an expression may turn out to be a pattern or the
parameters of an arrow function. The literals of the one are then those of the other, or fewer
(`Node.count_asPattern?_le`), and where no arrow follows, what was read stays at hand
(`accounts_awaitedArrow?_bind`). Some rules for statements give a parser for what follows rather
than its result; it accounts for its literals with no stock of its own (`Offered`).
-/

namespace ProseLint.Syntax

open Counted (count)

section Patterns

variable {spot : Spot}

/-! ## Expressions read as patterns -/

theorem count_mapM_le {γ : Type} {f : γ → Option Node} {g : γ → Node} {l : List γ} {k : List Node}
    (h : l.mapM f = some k) (hf : ∀ c ∈ l, ∀ n, f c = some n → count spot n ≤ count spot (g c)) :
    count spot k ≤ count spot (l.map g) := by
  induction l generalizing k with
  | nil =>
    obtain rfl : [] = k := by simpa using h
    exact Nat.le_refl _
  | cons c l ih =>
    simp only [List.mapM_cons, Option.bind_eq_bind, Option.bind_eq_some_iff, Option.pure_def,
      Option.some.injEq] at h
    obtain ⟨n, hn, ns, hns, rfl⟩ := h
    have hhead := hf c List.mem_cons_self n hn
    have htail := ih hns fun d hd => hf d (List.mem_cons_of_mem _ hd)
    rw [List.map_cons, count_cons, count_cons]
    omega

/-- A pattern has no more literals than the expression that it was read as. -/
theorem Node.count_asPattern?_le {use : PatternUse} {n m : Node} (h : n.asPattern? use = some m) :
    count spot m ≤ count spot n := by
  fun_induction Node.asPattern? use n generalizing m with
  | case1 s inner ih =>
    obtain ⟨p, hp, rfl⟩ : ∃ p, inner.asPattern? use = some p ∧ construct .rest s [p] = m := by
      simpa [Option.bind_eq_some_iff] using h
    have := ih hp
    rw [count_construct, Node.count_eq (spread s inner)]
    simpa [isLiteral, children, count_cons, count_nil] using this
  | case2 s members ih | case3 s members ih =>
    simp only [Option.bind_eq_bind, Option.bind_eq_some_iff, Option.pure_def,
      Option.some.injEq] at h
    obtain ⟨parts, hparts, rfl⟩ := h
    rw [count_construct, count_construct, ← List.attach_map_subtype_val members]
    exact count_mapM_le hparts fun c _ _ hc => ih c.1 c.2 hc
  | case4 s key value ih =>
    obtain ⟨p, hp, rfl⟩ : ∃ p, value.asPattern? use = some p ∧
        construct .keyedPattern s [key, p] = m := by
      simpa [Option.bind_eq_some_iff] using h
    have := ih hp
    simp only [count_construct, count_cons]
    omega
  | case5 s members | case6 s members =>
    cases h
    exact Nat.le_of_eq (by rw [count_construct, count_construct])
  | case7 | case8 | case9 => cases h
  | case10 s target value =>
    cases h
    rw [count_construct, Node.count_eq (assign s "=" target value)]
    exact Nat.le_add_left _ _
  | case11 =>
    cases h
    exact Nat.le_refl _
  | case12 =>
    cases h
    rw [count_construct]
    exact Nat.zero_le _

/-- A target is the expression itself or the pattern that it stands for. -/
theorem Node.asTarget?_eq_some {operator : String} {n m : Node}
    (h : n.asTarget? operator = some m) : m = n ∨ n.asPattern? .assignment = some m := by
  unfold asTarget? at h
  split at h <;> grind

theorem Node.count_asTarget?_le {operator : String} {n m : Node}
    (h : n.asTarget? operator = some m) : count spot m ≤ count spot n := by
  rcases asTarget?_eq_some h with rfl | hpattern
  · exact Nat.le_refl _
  · exact count_asPattern?_le hpattern

end Patterns

namespace Grammar

open ProseLint.Syntax.Parser
open ProseLint.Text (Span)

-- What follows a branch is searched once for each way through it, which makes instances large.
set_option synthInstance.maxSize 1000000

variable {α : Type} [Counted α] {spot : Spot} {stock rest rest' : Nat}

/-! ## What all rules share -/

section Surroundings

variable (p : Parser α) [Accounts spot stock p]

instance : Accounts spot stock (bracketed p) := by unfold bracketed; infer_instance
instance : Accounts spot stock (inMethod p) := by unfold inMethod; infer_instance
instance : Accounts spot stock (outsideMethod p) := by unfold outsideMethod; infer_instance
instance (async generator : Bool) : Accounts spot stock (inFunction async generator p) := by
  unfold inFunction
  infer_instance

end Surroundings

instance : Accounts spot stock name := by
  unfold name
  refine accounts_bind_plain fun t => ?_
  split <;> infer_instance

instance : Accounts spot stock word := by
  unfold word
  refine accounts_bind_plain fun t => ?_
  split <;> infer_instance

instance : Accounts spot stock string := by
  unfold string
  refine accounts_token_bind fun s hs => ?_
  split
  · next h => exact accountsFrom_advance_bind hs (by rw [h]; rfl) inferInstance
  · exact Accounts.run hs

instance (kind : Construct) : Accounts spot stock (leaf kind) := by unfold leaf; infer_instance

/-- A template from its backtick on. The backtick is passed before the first hole, so that between
its holes the template itself is at hand besides them. -/
theorem accountsFrom_template {s : ParserState} (hs : Standing spot.text s)
    (hkind : s.token.kind = .backtick) (tagged : Bool) (hole : Parser Node)
    [∀ stock, Accounts spot stock hole] :
    AccountsFrom spot s stock (template s.token.span.lo tagged hole) := by
  refine accountsFrom_repeating (begins spot s.token.span.lo) hs ?_ ?_ ?_
  · rintro ⟨place, chunks, holes⟩
    dsimp only
    split
    · infer_instance
    · next chunk _ => cases chunk.ending <;> infer_instance
  · rintro place ⟨chunks, holes⟩ s' stock hs' hmoves
    let : Counted (Step (Cursor × List String × List Node) Node) :=
      keeping (begins spot s.token.span.lo)
    dsimp only
    split
    · exact Accounts.run hs'
    · next chunk hchunk =>
      split
      · refine hmoves (Lexer.leads_chunk? hchunk) ?_
        rw [count_pair, count_plain, Nat.zero_add, spanFrom_bind]
        cases chunk.ending <;> infer_instance
      · exact Accounts.run hs'
  · intro γ _ c f hc hf
    refine movesFrom_stop_of_opens hs (by rw [hkind]; rfl) hc (accounts_of_le ?_ hf)
    rw [count_pair, count_nil, count_nil]
    omega

variable {rec : Grammar} [∀ stock goal, Accounts spot stock (rec goal)]

instance : Accounts spot stock (key rec) := by
  unfold key
  refine accounts_bind_plain fun t => ?_
  split <;> infer_instance

/-! ## Annotations, parameters and signatures -/

instance (lo : Nat) (members : List Node) [Takes spot members stock rest] :
    Accounts spot stock (typeNode lo members) := by
  unfold typeNode
  infer_instance

instance : Accounts spot stock <| typeAnnotation rec := by
  unfold typeAnnotation
  infer_instance
instance : Accounts spot stock (typeAnnotation? rec) := by unfold typeAnnotation?; infer_instance
instance : Accounts spot stock (typeArguments rec) := by unfold typeArguments; infer_instance
instance : Accounts spot stock (typeArguments? rec) := by unfold typeArguments?; infer_instance
instance : Accounts spot stock (typeParameter rec) := by unfold typeParameter; infer_instance
instance : Accounts spot stock (typeParameters rec) := by unfold typeParameters; infer_instance
instance : Accounts spot stock (typeParameters? rec) := by unfold typeParameters?; infer_instance
instance : Accounts spot stock (parameter rec) := by unfold parameter; infer_instance
instance : Accounts spot stock (parameters rec) := by unfold parameters; infer_instance
instance : Accounts spot stock (returnType rec) := by unfold returnType; infer_instance
instance : Accounts spot stock (returnType? rec) := by unfold returnType?; infer_instance
instance : Accounts spot stock (functionType rec) := by unfold functionType; infer_instance
instance : Accounts spot stock (signature rec) := by unfold signature; infer_instance
instance : Accounts spot stock (indexSignature rec) := by unfold indexSignature; infer_instance

/-! ## Members of types -/

instance : Accounts spot stock endTypeMember := by unfold endTypeMember; infer_instance
instance : Accounts spot stock atIndexSignature := by unfold atIndexSignature; infer_instance
instance (names : List String) : Accounts spot stock (atKeyModifier names) := by
  unfold atKeyModifier
  infer_instance
instance : Accounts spot stock (typeMember rec) := by unfold typeMember; infer_instance
instance : Accounts spot stock (typeMembers rec) := by unfold typeMembers; infer_instance
instance : Accounts spot stock atMappedType := by unfold atMappedType; infer_instance
instance : Accounts spot stock (mappedType rec) := by unfold mappedType; infer_instance
instance : Accounts spot stock (tupleElement rec) := by unfold tupleElement; infer_instance

/-! ## Types -/

instance : Accounts spot stock qualifiers := by unfold qualifiers; infer_instance
instance : Accounts spot stock (importType rec) := by unfold importType; infer_instance

instance : Accounts spot stock (valueType rec) := by
  unfold valueType
  refine accounts_bind_plain fun lo => accounts_bind_plain fun _ => accounts_bind_plain fun _ => ?_
  split
  · infer_instance
  · refine accounts_bind_closed fun _ => accounts_bind_plain (h := accounts_repeating fun _ => ?_)
      fun _ => ?_
    · refine accounts_bind_plain fun dotted => ?_
      split
      · refine accounts_bind_plain fun t => ?_
        dsimp only
        split <;> infer_instance
      · infer_instance
    · infer_instance

instance : Accounts spot stock (primaryType rec) := by
  unfold primaryType
  refine accounts_token_bind fun s hs => ?_
  dsimp only
  split <;> try exact Accounts.run hs
  · next h =>
    refine accountsFrom_bind_closed (accountsFrom_template hs h true _) fun n => ?_
    split <;> infer_instance
  · refine (accounts_bind_plain fun _ => accounts_bind_plain fun t => ?_).run hs
    split <;> infer_instance

instance : Accounts spot stock (postfixType rec) := by unfold postfixType; infer_instance
instance : Accounts spot stock (inferBound rec) := by unfold inferBound; infer_instance
instance : Accounts spot stock (typeOperand rec) := by unfold typeOperand; infer_instance

instance (sign : String) (part : Parser Node) [∀ stock, Accounts spot stock part] :
    Accounts spot stock (joinedTypes sign part) := by
  unfold joinedTypes
  refine accounts_bind_plain fun lo => accounts_bind_plain fun leading =>
    accounts_bind_closed fun first => accounts_bind_all fun all => ?_
  split <;> infer_instance

instance : Accounts spot stock (unionType rec) := by unfold unionType; infer_instance
instance : Accounts spot stock (functionType? rec) := by unfold functionType?; infer_instance

instance : Accounts spot stock (unconditionalType rec) := by
  unfold unconditionalType
  refine accounts_bind_plain fun lo => accounts_bind_closed fun found? => ?_
  cases found? <;> infer_instance

instance : Accounts spot stock (type rec) := by unfold type; infer_instance

/-! ## Bindings -/

instance : Accounts spot stock (initializer? rec) := by unfold initializer?; infer_instance

instance : Accounts spot stock (defaultedBinding rec) := by
  unfold defaultedBinding
  refine accounts_bind_plain fun lo => accounts_bind_closed fun target =>
    accounts_bind_closed fun fallback => ?_
  split <;> infer_instance

instance : Accounts spot stock (elementBinding rec) := by unfold elementBinding; infer_instance

instance : Accounts spot stock (propertyBinding rec) := by
  unfold propertyBinding
  refine accounts_bind_plain fun lo => accounts_bind_plain fun rest => ?_
  split
  · infer_instance
  · refine accounts_bind_plain fun t => accounts_bind_closed fun k =>
      accounts_bind_plain fun keyed => ?_
    split
    · infer_instance
    · split <;> infer_instance

instance : Accounts spot stock (binding rec) := by unfold binding; infer_instance

/-! ## Functions -/

instance : Accounts spot stock (block rec) := by unfold block; infer_instance

section Functions

variable (lo : Nat) (kind : Construct) (async generator named : Bool)

instance : Accounts spot stock (functionParts rec async generator) := by
  unfold functionParts
  infer_instance
instance : Accounts spot stock (function rec lo async named) := by unfold function; infer_instance
instance : Accounts spot stock (methodParts rec async generator) := by
  unfold methodParts
  infer_instance
instance : Accounts spot stock (method rec lo kind async generator) := by
  unfold method
  infer_instance

end Functions

/-! ## Classes -/

instance : Accounts spot stock atMemberModifier := by unfold atMemberModifier; infer_instance

instance : Accounts spot stock atConstructorKey := by
  unfold atConstructorKey
  refine accounts_bind_plain fun t => ?_
  split <;> infer_instance

instance (lo : Nat) (k : Node) [Takes spot k stock rest] :
    Accounts spot stock (field rec lo k) := by
  refine accounts_of_takes k ?_
  unfold field
  infer_instance

instance (lo : Nat) (static : Bool) : Accounts spot stock (keyedMember rec lo static) := by
  unfold keyedMember
  infer_instance

instance : Accounts spot stock (classMember rec) := by unfold classMember; infer_instance
instance : Accounts spot stock (typeList rec) := by unfold typeList; infer_instance

instance (lo : Nat) (named : Bool) : Accounts spot stock (classDefinition rec lo named) := by
  unfold classDefinition
  infer_instance

/-! ## Markup -/

instance (kind : Construct) (lo : Nat) (members : List Node) [Takes spot members stock rest] :
    Accounts spot stock (finishThrough kind lo members) := by
  unfold finishThrough
  infer_instance

instance : Accounts spot stock markupWord := by
  unfold markupWord
  refine accounts_bind_plain fun t => ?_
  split
  · infer_instance
  · refine accounts_get_bind fun s hs => ?_
    exact movesFrom_start hs (s.start.leads_takeWhile _) inferInstance

instance : Accounts spot stock tagName := by unfold tagName; infer_instance

theorem accountsFrom_markupString {s : ParserState} (hs : Standing spot.text s) {place : Cursor}
    (h : s.start.Leads place) : AccountsFrom spot s stock (markupString place) := by
  unfold markupString
  split
  · dsimp only
    split
    · exact Accounts.run hs
    · refine movesFrom_start hs (h.trans ?_) inferInstance
      exact ((place.leads_skip 1).trans (Cursor.leads_takeWhile _ _)).trans (Cursor.leads_skip _ 1)
  · exact Accounts.run hs

instance (label : String) : Accounts spot stock (closingTag label) := by
  unfold closingTag
  infer_instance

instance : Counted OpeningTag := ⟨fun spot tag => count spot tag.node⟩
instance : Bearing OpeningTag := ⟨⟩

instance (tag : OpeningTag) : Holds spot tag.node (count spot tag + stock) stock :=
  ⟨Nat.le_refl _⟩

instance (label : String) (n : Node) (closed : Bool) [h : Takes spot n stock rest] :
    Takes spot (OpeningTag.mk label n closed) stock rest :=
  ⟨h.le⟩

instance : Accounts spot stock (attributeValue rec) := by
  unfold attributeValue
  refine accounts_get_bind fun s hs => ?_
  split
  · exact Accounts.run hs
  · next place _ h =>
    split
    · exact accountsFrom_markupString hs (hs.passes.trans (Lexer.leads_skipTrivia h))
    · exact Accounts.run hs

instance : Accounts spot stock (tagAttribute rec) := by unfold tagAttribute; infer_instance
instance : Accounts spot stock (container rec) := by unfold container; infer_instance
instance : Accounts spot stock (openingTag rec) := by unfold openingTag; infer_instance

instance : Accounts spot stock (element rec) := by
  unfold element
  refine accounts_bind_plain fun lo => accounts_bind_closed fun tag => ?_
  split
  · infer_instance
  -- between the tags, the opening tag is at hand besides what was read so far
  · refine accounts_get_bind fun s hs => accountsFrom_repeating (count spot tag) hs ?_ ?_ ?_
    · rintro ⟨place, inside⟩
      infer_instance
    · intro place inside s' stock hs' hmoves
      let : Counted (Step (Cursor × List Node) Node) := keeping (count spot tag)
      refine hmoves (place.leads_takeWhile _) ?_
      dsimp only
      split <;> infer_instance
    · intro γ _ c f hc hf
      refine movesFrom_stop hs hc (accounts_of_le ?_ hf)
      rw [count_nil]
      omega

/-! ## Operators between operands -/

instance : Plain Operator := ⟨⟩

instance : Accounts spot stock operatorText? := by
  unfold operatorText?
  refine accounts_bind_plain fun s => ?_
  split
  · split <;> infer_instance
  all_goals infer_instance

instance : Accounts spot stock operator? := by
  unfold operator?
  refine accounts_bind_plain fun found? => ?_
  split
  · next op stop => cases operatorRank? op <;> dsimp only [Option.map] <;> infer_instance
  · infer_instance

instance : Accounts spot stock atOperatorSign := by
  unfold atOperatorSign
  refine accounts_bind_plain fun t => ?_
  split <;> infer_instance

/-- An operator ends further on than the current token begins. -/
theorem finds_operatorText? {s : ParserState} (hs : Standing spot.text s) :
    Finds s (fun found? => ∀ found ∈ found?, s.start.Leads found.2) operatorText? := by
  unfold operatorText?
  refine finds_get.bind fun s' hget => ?_
  rw [hget]
  split
  · split
    · exact finds_pure (by simpa using s.start.leads_skip _)
    · exact finds_pure (by simp)
  · exact finds_pure (by simpa using hs.passes)
  · refine finds_read.bind fun ctx _ => ?_
    split
    · exact finds_pure (by simpa using hs.passes)
    · exact finds_pure (by simp)
  · exact finds_pure (by simp)

theorem finds_operator? {s : ParserState} (hs : Standing spot.text s) :
    Finds s (fun op? => ∀ op ∈ op?, s.start.Leads op.stop) operator? := by
  unfold operator?
  refine (finds_operatorText? hs).bind fun found? hfound => ?_
  split
  · next op stop => exact finds_pure (by simpa using fun _ _ => hfound _ rfl)
  · exact finds_pure (by simp)

instance (span : Span) (op : String) (left right : Node) [hl : Takes spot left stock rest]
    [hr : Takes spot right rest rest'] :
    Takes spot (operationNode span op left right) stock rest' := by
  unfold operationNode
  split_ifs <;> infer_instance

instance (least lo : Nat) (first : Node) [Takes spot first stock rest] :
    Accounts spot stock (operationRest rec least lo first) := by
  unfold operationRest
  refine accounts_repeating fun left => accounts_bind_plain fun t => accounts_bind_plain fun _ => ?_
  split
  · infer_instance
  · refine ⟨fun {s} hs => (finds_operator? hs).accountsFrom_bind fun op? hop => ?_⟩
    cases op? with
    | some op =>
      dsimp only
      split
      · exact Accounts.run hs
      · split
        · exact Accounts.run hs
        · exact movesFrom_start hs (hop op rfl) inferInstance
    | none => exact Accounts.run hs

/-! ## Literals of arrays and objects -/

instance : Accounts spot stock regex := by
  unfold regex
  refine accounts_get_bind fun s hs => ?_
  dsimp only
  split
  · exact Accounts.run hs
  · next stop h =>
    refine movesFrom_start hs ?_ inferInstance
    exact ((s.start.leads_skip 1).trans (Lexer.leads_regexStop? h)).trans (stop.leads_dropWhile _)

instance : Accounts spot stock (spreadable rec) := by unfold spreadable; infer_instance
instance : Accounts spot stock (array rec) := by unfold array; infer_instance

instance (lo : Nat) (first : Token) (k : Node) [Takes spot k stock rest] :
    Accounts spot stock (propertyRest rec lo first k) := by
  refine accounts_of_takes k ?_
  unfold propertyRest
  cases first.word? <;> infer_instance

instance (lo : Nat) : Accounts spot stock (plainProperty rec lo) := by
  unfold plainProperty
  refine accounts_bind_plain fun first => ?_
  dsimp only
  split <;> infer_instance

instance : Accounts spot stock (property rec) := by unfold property; infer_instance
instance : Accounts spot stock (object rec) := by unfold object; infer_instance

/-! ## Parentheses and arrow functions -/

section Arrows

variable (lo : Nat) (async mayBeArrow : Bool) (async? : Option Span)
variable (items params types : List Node)

instance : Accounts spot stock (arrowBody rec async) := by unfold arrowBody; infer_instance

section Parameters

variable [hparams : Takes spot params stock rest] [htypes : Takes spot types rest rest']

instance : Accounts spot stock (arrowRest rec lo async params types) := by
  have : Takes spot (params, types) stock rest' := inferInstance
  refine accounts_of_takes (params, types) ?_
  rw [count_pair, Nat.add_assoc]
  unfold arrowRest
  infer_instance

instance : Accounts spot stock (parenthesizedArrow rec lo async params types) := by
  refine accounts_of_takes (params, types) ?_
  rw [count_pair, Nat.add_assoc]
  unfold parenthesizedArrow
  infer_instance

end Parameters

instance (n : Node) [h : Takes spot n stock rest] : Accounts spot stock (parameterTarget n) := by
  unfold parameterTarget
  split
  · infer_instance
  · split
    · next target htarget =>
      have := h.of_le (Node.count_asPattern?_le htarget)
      infer_instance
    · infer_instance

instance : Accounts spot stock (typedItem rec) := by unfold typedItem; infer_instance

instance : Accounts spot stock (parenItems rec) := by unfold parenItems; infer_instance

instance : Accounts spot stock (arrowResult? rec) := by unfold arrowResult?; infer_instance

instance [h : Takes spot items stock rest] : Accounts spot stock (asParameters items) := by
  unfold asParameters
  split
  · next params hparams =>
    have hle : count spot params ≤ count spot items := by
      rw [← List.map_id items]
      refine count_mapM_le hparams fun item _ n hn => ?_
      split at hn
      · cases hn
        exact Nat.le_refl _
      · exact Node.count_asPattern?_le hn
    have := h.of_le hle
    infer_instance
  · infer_instance

-- The types behind the parameters stay at hand.
instance (priority := high) {f : List Node → Parser Node} [Takes spot items stock rest]
    [hf : ∀ params, Accounts spot (count spot params + rest) (f params)] :
    Accounts spot stock (asParameters items >>= f) :=
  accounts_of_takes items (accounts_bind hf)

/-- Items that no arrow follows are still at hand. -/
theorem accounts_awaitedArrow?_bind {f : Option Node → Parser Node}
    (hsome : ∀ arrow, Accounts spot (count spot arrow + 0) (f (some arrow)))
    (hnone : Accounts spot (count spot items + stock) (f none)) :
    Accounts spot (count spot items + stock) (awaitedArrow? rec lo async items >>= f) := by
  unfold awaitedArrow?
  simp only [bind_assoc]
  refine accounts_bind_plain fun _ => accounts_bind_plain fun _ => accounts_bind_plain fun _ => ?_
  split
  · exact accounts_optionally_bind hsome hnone
  · infer_instance

instance (comma : Bool) [h : Takes spot items stock rest] :
    Accounts spot stock (parenthesizedItems lo async? items comma) := by
  refine accounts_of_takes items ?_
  unfold parenthesizedItems
  split
  · infer_instance
  · dsimp only
    split
    · infer_instance
    · refine accounts_bind_plain fun span => ?_
      split <;> infer_instance

instance : Accounts spot stock (parenthesized rec async? mayBeArrow) := by
  unfold parenthesized
  refine accounts_bind_plain fun here => accounts_bind_closed ?_
  rintro ⟨items, comma⟩
  rw [count_pair, Nat.add_assoc]
  dsimp only
  split
  · exact accounts_awaitedArrow?_bind _ _ _ (fun _ => inferInstance) inferInstance
  · infer_instance

instance : Accounts spot stock (genericArrow rec lo async?) := by
  unfold genericArrow
  refine accounts_bind_closed fun generics => accounts_bind_plain fun opens => ?_
  dsimp only
  split
  · refine accounts_bind_closed fun n => ?_
    split <;> infer_instance
  · infer_instance

instance : Accounts spot stock (nameOrArrow rec mayBeArrow) := by
  unfold nameOrArrow
  infer_instance

instance : Accounts spot stock (asyncExpression rec mayBeArrow) := by
  unfold asyncExpression
  infer_instance

end Arrows

instance : Accounts spot stock (primary rec) := by
  unfold primary
  refine accounts_token_bind fun s hs => finds_get.accountsFrom_bind fun s' _ => ?_
  dsimp only
  split <;> try exact Accounts.run hs
  · next h => exact accountsFrom_advance_bind hs (by rw [h]; rfl) inferInstance
  · next h => exact accountsFrom_template hs h false (rec .expression)

/-! ## Accesses and calls -/

instance : Accounts spot stock (arguments rec) := by unfold arguments; infer_instance

instance : Accounts spot stock memberName := by
  unfold memberName
  refine accounts_bind_plain fun t => ?_
  split <;> infer_instance

instance : Accounts spot stock (index rec) := by unfold index; infer_instance

section Accesses

variable (lo : Nat) (base : Node) (calls : Bool) [Takes spot base stock rest]

instance : Accounts spot stock (applied rec lo base calls) := by
  refine accounts_of_takes base ?_
  unfold applied
  refine accounts_bind_closed fun types => accounts_bind_plain fun opens => ?_
  split
  · infer_instance
  · refine accounts_token_bind fun s hs => ?_
    split
    · next h =>
      refine accountsFrom_bind_closed (accountsFrom_template hs (eq_of_beq h) true _) fun text => ?_
      infer_instance
    · exact Accounts.run hs

instance : Accounts spot stock (appliedStep rec lo base calls) := by
  refine accounts_of_takes base ?_
  unfold appliedStep
  exact accounts_optionally_bind (fun _ => inferInstance) inferInstance

instance : Accounts spot stock (chainedLink rec lo base) := by
  refine accounts_of_takes base ?_
  unfold chainedLink
  infer_instance

instance : Accounts spot stock (subscripts rec lo base calls) := by
  unfold subscripts
  refine accounts_repeating fun base => accounts_token_bind fun s hs => ?_
  dsimp only
  split
  · next h =>
    exact accountsFrom_bind_closed (accountsFrom_template hs h true _) fun text => inferInstance
  · exact Accounts.run hs
  · exact Accounts.run hs

end Accesses

instance : Accounts spot stock (superExpression rec) := by unfold superExpression; infer_instance
instance : Accounts spot stock (importArguments rec) := by unfold importArguments; infer_instance
instance : Accounts spot stock (importExpression rec) := by unfold importExpression; infer_instance
instance : Accounts spot stock (instantiation rec) := by unfold instantiation; infer_instance
instance : Accounts spot stock (constructed rec) := by unfold constructed; infer_instance
instance : Accounts spot stock (leftHandSide rec) := by unfold leftHandSide; infer_instance

/-! ## Operators -/

instance : Accounts spot stock (bracketCast rec) := by unfold bracketCast; infer_instance
instance : Accounts spot stock atAwaitOperator := by unfold atAwaitOperator; infer_instance
instance : Accounts spot stock missingOperand := by unfold missingOperand; infer_instance
instance : Accounts spot stock (unary rec) := by unfold unary; infer_instance
instance (least : Nat) : Accounts spot stock (operation rec least) := by
  unfold operation
  infer_instance

/-! ## Conditions and assignments -/

instance : Accounts spot stock atJoiningOperator := by unfold atJoiningOperator; infer_instance
instance : Accounts spot stock (conditional rec) := by unfold conditional; infer_instance
instance : Accounts spot stock (yieldExpression rec) := by unfold yieldExpression; infer_instance

instance (lo : Nat) (left : Node) [hleft : Takes spot left stock rest] :
    Accounts spot stock (assignmentRest rec lo left) := by
  unfold assignmentRest
  refine ⟨fun {s} hs => (finds_operatorText? hs).accountsFrom_bind fun found? hfound => ?_⟩
  split
  · next op stop =>
    split
    · split
      · exact Accounts.run hs
      · next target htarget =>
        have := hleft.of_le (Node.count_asTarget?_le htarget)
        exact movesFrom_start hs (hfound _ rfl) (accounts_of_takes target inferInstance)
    · exact Accounts.run hs
  · exact Accounts.run hs

instance : Accounts spot stock (plainAssignment rec) := by unfold plainAssignment; infer_instance
instance : Accounts spot stock (assignment rec) := by unfold assignment; infer_instance
instance : Accounts spot stock (expression rec) := by unfold expression; infer_instance

/-! ## Offered parsers -/

/-- A parser that is offered for what follows accounts for its literals. -/
def Offered (spot : Spot) (offer : Option (Parser Node)) (_ : ParserState) : Prop :=
  ∀ p ∈ offer, Accounts spot 0 p

instance : Ends (Offered spot) (pure none) where
  run h := by
    cases h
    exact fun p hp => nomatch hp

instance (p : Parser Node) [hp : Accounts spot 0 p] : Ends (Offered spot) (pure (some p)) where
  run h := by
    cases h
    exact fun q hq => Option.mem_some.1 hq ▸ hp

/-- Going on with the parser that is offered, or in another way if there is none. -/
theorem accounts_offered_bind {p : Parser (Option (Parser Node))}
    {f : Option (Parser Node) → Parser Node} [hp : Accounts spot 0 p] [ho : Ends (Offered spot) p]
    (hsome : ∀ q, f (some q) = q) (hnone : Accounts spot stock (f none)) :
    Accounts spot stock (p >>= f) where
  run {s} hs := by
    intro ctx b s'' hrun
    obtain ⟨o, s', hpo, hfo⟩ := bind_eq_ok hrun
    obtain ⟨hs', hle⟩ := hp.run hs hpo
    have hf : Accounts spot stock (f o) := by
      cases o with
      | none => exact hnone
      | some q =>
        rw [hsome]
        exact accounts_of_le (Nat.zero_le _) (ho.run hpo q rfl)
    obtain ⟨hs'', hle'⟩ := hf.run hs' hfo
    exact ⟨hs'', by omega⟩

/-! ## Variables -/

instance (kind : VariableKind) : Accounts spot stock (mayLackValue kind) := by
  unfold mayLackValue
  infer_instance

instance (target : Node) (types : List Node) [ht : Takes spot target stock rest]
    [hts : Takes spot types rest rest'] : Takes spot (declared target types) stock rest' := by
  cases types with
  | nil =>
    have := hts.le
    have := ht.le
    exact ⟨by simp only [declared]; omega⟩
  | cons t ts => exact inferInstanceAs (Takes spot (Node.construct _ _ (target :: t :: ts)) _ _)

instance (kind : VariableKind) : Accounts spot stock (declarator rec kind) := by
  unfold declarator
  infer_instance

instance (kind : VariableKind) : Accounts spot stock (declarators rec kind) := by
  unfold declarators
  infer_instance

instance : Accounts spot stock atLet := by unfold atLet; infer_instance
instance : Accounts spot stock atUsing := by unfold atUsing; infer_instance
instance : Accounts spot stock atAwaitUsing := by unfold atAwaitUsing; infer_instance
instance : Accounts spot stock atVariables := by unfold atVariables; infer_instance

instance (inLoop : Bool) : Accounts spot stock (variableDeclaration rec inLoop) := by
  unfold variableDeclaration
  infer_instance

instance : Accounts spot stock (endVariables rec) := by unfold endVariables; infer_instance

/-! ## Control flow -/

instance : Accounts spot stock (condition rec) := by unfold condition; infer_instance
instance (close : String) : Accounts spot stock (expressionUntil rec close) := by
  unfold expressionUntil
  infer_instance

section Loops

variable (kind : Construct) (lo : Nat) (first : Node) (declared : Bool) (source : Parser Node)
variable (head : List Node) [hfirst : Takes spot first stock rest]

instance [∀ stock, Accounts spot stock source] :
    Accounts spot stock (loopOver rec kind lo first source) := by
  refine accounts_of_takes first ?_
  unfold loopOver
  infer_instance

instance [Takes spot head stock rest] : Accounts spot stock (loopWith rec lo head) := by
  refine accounts_of_takes head ?_
  unfold loopWith
  infer_instance

instance : Accounts spot stock (loopTarget first declared) := by
  unfold loopTarget
  split
  · infer_instance
  · split
    · next h =>
      have := hfirst.of_le (Node.count_asTarget?_le h)
      infer_instance
    · infer_instance

instance : Accounts spot stock (loopRest rec lo first declared) := by
  unfold loopRest
  infer_instance

end Loops

instance : Accounts spot stock (forLoop rec) := by unfold forLoop; infer_instance
instance : Accounts spot stock (branch rec) := by unfold branch; infer_instance
instance : Accounts spot stock (doLoop rec) := by unfold doLoop; infer_instance
instance : Accounts spot stock (guards rec) := by unfold guards; infer_instance
instance : Accounts spot stock (guarded rec) := by unfold guarded; infer_instance
instance : Accounts spot stock (unguarded rec) := by unfold unguarded; infer_instance
instance : Accounts spot stock (switchCase rec) := by unfold switchCase; infer_instance
instance : Accounts spot stock (switchCases rec) := by unfold switchCases; infer_instance
instance : Accounts spot stock (choice rec) := by unfold choice; infer_instance
instance (kind : Construct) : Accounts spot stock (jump kind) := by unfold jump; infer_instance
instance : Accounts spot stock (returning rec) := by unfold returning; infer_instance
instance : Accounts spot stock (throwing rec) := by unfold throwing; infer_instance

/-! ## Type declarations -/

section Declarations

variable (lo : Nat)

instance : Accounts spot stock qualifiedName := by unfold qualifiedName; infer_instance
instance : Accounts spot stock (typeAlias rec lo) := by unfold typeAlias; infer_instance
instance : Accounts spot stock (interface rec lo) := by unfold interface; infer_instance
instance : Accounts spot stock (enumMember rec) := by unfold enumMember; infer_instance
instance : Accounts spot stock (enumeration rec lo) := by unfold enumeration; infer_instance
instance : Accounts spot stock (namespaceStatements rec) := by
  unfold namespaceStatements
  infer_instance

instance : Accounts spot stock namespaceName := by
  unfold namespaceName
  refine accounts_bind_plain fun t => ?_
  split <;> infer_instance

instance : Accounts spot stock (namespaceBody rec lo) := by unfold namespaceBody; infer_instance

instance (label : Node) [Takes spot label stock rest] :
    Accounts spot stock (importAlias lo label) := by
  refine accounts_of_takes label ?_
  unfold importAlias
  infer_instance

instance : Accounts spot stock (typeDeclaration? rec lo) := by
  unfold typeDeclaration?
  infer_instance

instance : Ends (Offered spot) (typeDeclaration? rec lo) := by
  unfold typeDeclaration?
  infer_instance

instance : Accounts spot stock (described rec lo) := by
  unfold described
  refine accounts_inContext _ _ (h := accounts_bind_plain fun t => ?_)
  exact accounts_offered_bind (fun _ => rfl) inferInstance

end Declarations

instance : Accounts spot stock atDescribed := by unfold atDescribed; infer_instance

/-! ## Modules -/

instance : Accounts spot stock (moduleSource rec) := by unfold moduleSource; infer_instance

instance : Accounts spot stock moduleName := by
  unfold moduleName
  refine accounts_bind_plain fun t => ?_
  split <;> infer_instance

instance : Accounts spot stock skipTypeModifier := by unfold skipTypeModifier; infer_instance
instance : Accounts spot stock importSpecifier := by unfold importSpecifier; infer_instance
instance : Accounts spot stock exportSpecifier := by unfold exportSpecifier; infer_instance
instance (specifier : Parser Node) [Accounts spot 0 specifier] :
    Accounts spot stock (specifiers specifier) := by
  unfold specifiers
  infer_instance
instance : Accounts spot stock starSpecifier := by unfold starSpecifier; infer_instance
instance : Accounts spot stock importClause := by unfold importClause; infer_instance
instance : Accounts spot stock atTypeModifier := by unfold atTypeModifier; infer_instance

instance : Accounts spot stock (importDeclaration rec) := by
  unfold importDeclaration
  refine accounts_bind_plain fun lo => accounts_bind_plain fun _ => accounts_bind_plain fun t => ?_
  split <;> infer_instance

section Exports

variable (lo : Nat)

instance : Accounts spot stock (defaultExport rec lo) := by unfold defaultExport; infer_instance
instance : Accounts spot stock (exportNames rec lo) := by unfold exportNames; infer_instance
instance : Accounts spot stock (exportAll rec lo) := by unfold exportAll; infer_instance

instance : Accounts spot stock (exportedDeclaration rec lo) := by
  unfold exportedDeclaration
  refine accounts_bind_closed fun n => ?_
  split <;> infer_instance

end Exports

instance : Accounts spot stock (exportDeclaration rec) := by
  unfold exportDeclaration
  infer_instance

/-! ## Statements -/

instance : Accounts spot stock (expressionStatement rec) := by
  unfold expressionStatement
  infer_instance
instance : Accounts spot stock (importStatement rec) := by unfold importStatement; infer_instance

instance (place : StatementPlace) (w : String) (lo : Nat) :
    Accounts spot stock (keywordStatement? rec place w lo) := by
  unfold keywordStatement?
  refine accounts_bind_plain fun next => ?_
  split <;> infer_instance

instance (place : StatementPlace) (w : String) (lo : Nat) :
    Ends (Offered spot) (keywordStatement? rec place w lo) := by
  unfold keywordStatement?
  refine ends_bind _ _ (h := fun next => ?_)
  split <;> infer_instance

instance (place : StatementPlace) : Accounts spot stock (atVariableStatement place) := by
  cases place <;> unfold atVariableStatement <;> infer_instance

instance (place : StatementPlace) : Accounts spot stock (statement rec place) := by
  unfold statement
  refine accounts_bind_plain fun t => ?_
  dsimp only
  split_ifs
  · infer_instance
  · infer_instance
  · split
    · refine accounts_offered_bind (fun _ => rfl) ?_
      refine accounts_bind_plain fun isDescribed => ?_
      split
      · infer_instance
      · refine accounts_bind_plain fun declares => ?_
        split
        · infer_instance
        · exact accounts_offered_bind (fun _ => rfl) inferInstance
    · infer_instance

end Grammar

end ProseLint.Syntax
