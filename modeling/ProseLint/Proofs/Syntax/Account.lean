import ProseLint.Proofs.Syntax.Stock

/-!
# Parsers account for their literals

A parser accounts for its literals (`Accounts`) if, from a state in the text and with a stock at
hand, the literals that it gives and the delimiter that is still ahead of it are no more than what
was in the stock and ahead of it before. So a delimiter pays for one literal where it is passed, and
a parser that was given an empty stock gives no literal twice. The instances of `Accounts` follow
the ways in which parsers are put together; behind a parser, its value is at hand besides the stock.
-/

namespace ProseLint.Syntax

open Counted (count)
open Lexer (opensLiteral)
open ProseLint.Text (Span)

variable {spot : Spot}

/-! ## States -/

/-- The places of the state are in the text, and a token that opens a literal stands at its
delimiter. -/
structure Standing (text : List Char) (s : ParserState) : Prop where
  leads : (Cursor.ofText text).Leads s.start
  passes : s.start.Leads s.stop
  opens : opensLiteral s.token.kind →
    s.token.span.lo = s.start.offset ∧ OpensAt text s.start.offset ∧
      s.start.offset < s.stop.offset

theorem standing_stateAt {text : List Char} {c : Cursor} (h : (Cursor.ofText text).Leads c)
    (newline : Bool) : Standing text (Parser.stateAt c newline) where
  leads := h.trans (Lexer.leads_start_read c newline)
  passes := Lexer.leads_stop_read c newline
  opens hopens := by
    obtain ⟨hlo, hlt, d, ds, hrest, hd⟩ := Lexer.isDelimiter_of_opensLiteral hopens
    obtain ⟨behind, htext, hoffset⟩ := h.trans (Lexer.leads_start_read c newline)
    refine ⟨hlo, ⟨behind, d, ds, ?_, ?_, hd⟩, hlt⟩
    · rw [← hrest]
      exact htext
    · exact (hoffset.trans (Nat.zero_add _)).symm

theorem Standing.withArrow {text : List Char} {s : ParserState} (h : Standing text s)
    (arrowStart : Option Nat) : Standing text { s with arrowStart := arrowStart } :=
  ⟨h.leads, h.passes, h.opens⟩

/-! ## Accounts -/

/-- From the state, with a stock of literals at hand, the parser comes to a state in the text. It
gives no more literals that begin at the spot than there are in the stock, and one more if it passes
the delimiter there. -/
def AccountsFrom {α : Type} [Counted α] (spot : Spot) (s : ParserState) (stock : Nat)
    (p : Parser α) : Prop :=
  ∀ ⦃ctx a s'⦄, p ctx s = .ok (a, s') → Standing spot.text s' ∧
    count spot a + ahead spot s'.start.offset ≤ stock + ahead spot s.start.offset

/-- The parser accounts for its literals from every state in the text. -/
class Accounts {α : Type} [Counted α] (spot : Spot) (stock : Nat) (p : Parser α) : Prop where
  run : ∀ {s}, Standing spot.text s → AccountsFrom spot s stock p

namespace Parser

theorem bind_eq_ok {α β : Type} {p : Parser α} {f : α → Parser β} {ctx : Context}
    {s s'' : ParserState} {b : β} (h : (p >>= f) ctx s = .ok (b, s'')) :
    ∃ a s', p ctx s = .ok (a, s') ∧ f a ctx s' = .ok (b, s'') := by
  simp only [bind, ReaderT.bind, StateT.bind, Except.bind] at h
  split at h
  · cases h
  · next r hp => exact ⟨r.1, r.2, hp, h⟩

variable {α β σ : Type} [Counted α] [Counted β] [Counted σ] {stock rest : Nat} {s : ParserState}

/-! ### Putting parsers together -/

theorem accounts_of_le {p : Parser α} {own : Nat} (h : own ≤ stock)
    (hp : Accounts spot own p) : Accounts spot stock p where
  run hs := by
    intro ctx b s' hrun
    obtain ⟨hs', hle⟩ := hp.run hs hrun
    exact ⟨hs', by omega⟩

/-- A parser that takes a value may be given any stock that the value can be taken out of. -/
theorem accounts_of_takes {p : Parser β} (a : α) [h : Takes spot a stock rest]
    (hp : Accounts spot (count spot a + rest) p) : Accounts spot stock p :=
  accounts_of_le h.le hp

instance (a : α) [h : Takes spot a stock rest] :
    Accounts spot stock (pure a : Parser α) where
  run hs := by
    intro ctx b s' hrun
    cases hrun
    have := h.le
    exact ⟨hs, by omega⟩

/-- What is at hand besides what the first parser needs is at hand for the second. -/
theorem accountsFrom_bind {p : Parser α} {f : α → Parser β} {own other : Nat}
    (hp : AccountsFrom spot s own p)
    (hf : ∀ a, Accounts spot (count spot a + other) (f a)) :
    AccountsFrom spot s (own + other) (p >>= f) := by
  intro ctx b s'' hrun
  obtain ⟨a, s', hpa, hfa⟩ := bind_eq_ok hrun
  obtain ⟨hs', hle⟩ := hp hpa
  obtain ⟨hs'', hle'⟩ := (hf a).run hs' hfa
  exact ⟨hs'', by omega⟩

theorem accountsFrom_bind_closed {p : Parser α} {f : α → Parser β}
    (hp : AccountsFrom spot s 0 p) (hf : ∀ a, Accounts spot (count spot a + stock) (f a)) :
    AccountsFrom spot s stock (p >>= f) := by
  rw [← Nat.zero_add stock]
  exact accountsFrom_bind hp hf

theorem accounts_bind {p : Parser α} {f : α → Parser β} {own other : Nat}
    [hp : Accounts spot own p] (hf : ∀ a, Accounts spot (count spot a + other) (f a)) :
    Accounts spot (own + other) (p >>= f) where
  run hs := accountsFrom_bind (hp.run hs) hf

theorem accounts_bind_closed {p : Parser α} {f : α → Parser β} [hp : Accounts spot 0 p]
    (hf : ∀ a, Accounts spot (count spot a + stock) (f a)) : Accounts spot stock (p >>= f) where
  run hs := accountsFrom_bind_closed (hp.run hs) hf

instance [Bearing α] (p : Parser α) (f : α → Parser β) [Accounts spot 0 p]
    [hf : ∀ a, Accounts spot (count spot a + stock) (f a)] :
    Accounts spot stock (p >>= f) :=
  accounts_bind_closed hf

theorem accounts_bind_plain {p : Parser α} {f : α → Parser β}
    [h : Accounts spot 0 p] (hf : ∀ a, Accounts spot stock (f a)) :
    Accounts spot stock (p >>= f) where
  run hs := by
    intro ctx b s'' hrun
    obtain ⟨a, s', hpa, hfa⟩ := bind_eq_ok hrun
    obtain ⟨hs', hle⟩ := h.run hs hpa
    obtain ⟨hs'', hle'⟩ := (hf a).run hs' hfa
    exact ⟨hs'', by omega⟩

instance [Plain α] (p : Parser α) (f : α → Parser β) [Accounts spot 0 p]
    [hf : ∀ a, Accounts spot stock (f a)] : Accounts spot stock (p >>= f) :=
  accounts_bind_plain hf

instance (p : Parser (σ × α)) (f : σ × α → Parser β) [Accounts spot 0 p]
    [hf : ∀ a b, Accounts spot (count spot a + (count spot b + stock)) (f (a, b))] :
    Accounts spot stock (p >>= f) :=
  accounts_bind_closed fun (a, b) => by
    rw [count_pair, Nat.add_assoc]
    exact hf a b

/-- Where the first parser takes values, it may take all that are at hand. -/
theorem accounts_bind_all {p : Parser α} {f : α → Parser β} [Accounts spot stock p]
    (hf : ∀ a, Accounts spot (count spot a + 0) (f a)) : Accounts spot stock (p >>= f) :=
  show Accounts spot (stock + 0) (p >>= f) from accounts_bind hf

instance (priority := low) [Bearing α] (p : Parser α) (f : α → Parser β)
    [Accounts spot stock p] [hf : ∀ a, Accounts spot (count spot a + 0) (f a)] :
    Accounts spot stock (p >>= f) :=
  accounts_bind_all hf

instance (priority := high) (a : α) (f : α → Parser β) [h : Accounts spot stock (f a)] :
    Accounts spot stock (pure a >>= f) where
  run hs := h.run hs

instance (p : Parser α) [Accounts spot stock (p >>= fun _ => pure ())] :
    Accounts spot stock (discard p) :=
  inferInstanceAs (Accounts spot stock (p >>= fun _ => pure ()))

instance (c : Prop) [Decidable c] (p q : Parser α) [Accounts spot stock p]
    [Accounts spot stock q] : Accounts spot stock (if c then p else q) := by
  split <;> infer_instance

instance accounts_inContext (change : Context → Context) (p : Parser α)
    [h : Accounts spot stock p] : Accounts spot stock (inContext change p) where
  run hs := fun _ _ _ hrun => h.run hs hrun

instance (p : Parser α) [hp : Accounts spot stock p] :
    Accounts spot stock (optionally p) where
  run hs := by
    intro ctx a s' h
    unfold optionally at h
    split at h
    · next hok =>
      cases h
      exact hp.run hs hok
    · cases h
      exact ⟨hs, Nat.add_le_add_right (Nat.zero_le _) _⟩

/-- What the first parser takes is still at hand if it fails. -/
theorem accounts_optionally_bind {p : Parser α} {f : Option α → Parser β}
    [hp : Accounts spot stock p] (hsome : ∀ a, Accounts spot (count spot a + 0) (f (some a)))
    (hnone : Accounts spot stock (f none)) : Accounts spot stock (optionally p >>= f) where
  run {s} hs := by
    intro ctx b s'' hrun
    obtain ⟨o, s', ho, hrest⟩ := bind_eq_ok hrun
    unfold optionally at ho
    split at ho
    · next hok =>
      cases ho
      obtain ⟨hs', hle⟩ := hp.run hs hok
      obtain ⟨hs'', hle'⟩ := (hsome _).run hs' hrest
      exact ⟨hs'', by omega⟩
    · cases ho
      exact hnone.run hs hrest

instance (p q : Parser α) [hp : Accounts spot stock p] [hq : Accounts spot stock q] :
    Accounts spot stock (orElse p q) where
  run hs := by
    intro ctx a s' h
    unfold orElse at h
    split at h
    · next hok =>
      cases h
      exact hp.run hs hok
    · exact hq.run hs h

instance (p : Parser α) (missing : α) [hp : Accounts spot stock p]
    [hmissing : Takes spot missing stock rest] :
    Accounts spot stock (orMissing p missing) where
  run hs := by
    intro ctx a s' h
    unfold orMissing at h
    split at h
    · next hok =>
      cases h
      exact hp.run hs hok
    · split at h
      · cases h
        have := hmissing.le
        exact ⟨hs, by omega⟩
      · cases h

/-! ### Looking without moving -/

/-- From the state, the parser only looks, and what it finds has the property. -/
def Finds {γ : Type} (s : ParserState) (P : γ → Prop) (p : Parser γ) : Prop :=
  ∀ ⦃ctx a s'⦄, p ctx s = .ok (a, s') → s' = s ∧ P a

theorem finds_pure {γ : Type} {P : γ → Prop} {a : γ} (h : P a) :
    Finds s P (pure a : Parser γ) := by
  intro ctx b s' hrun
  cases hrun
  exact ⟨rfl, h⟩

theorem finds_get : Finds s (· = s) (get : Parser ParserState) := by
  intro ctx a s' hrun
  cases hrun
  exact ⟨rfl, rfl⟩

theorem finds_read : Finds s (fun _ => True) (read : Parser Context) := by
  intro ctx a s' hrun
  cases hrun
  exact ⟨rfl, trivial⟩

theorem Finds.bind {γ δ : Type} {P : γ → Prop} {Q : δ → Prop} {p : Parser γ} {f : γ → Parser δ}
    (hp : Finds s P p) (hf : ∀ a, P a → Finds s Q (f a)) : Finds s Q (p >>= f) := by
  intro ctx b s'' hrun
  obtain ⟨a, s', hpa, hfa⟩ := bind_eq_ok hrun
  obtain ⟨rfl, ha⟩ := hp hpa
  exact hf a ha hfa

theorem Finds.accountsFrom_bind {γ : Type} {P : γ → Prop} {p : Parser γ} {f : γ → Parser β}
    (hp : Finds s P p) (hf : ∀ a, P a → AccountsFrom spot s stock (f a)) :
    AccountsFrom spot s stock (p >>= f) := by
  intro ctx b s'' hrun
  obtain ⟨a, s', hpa, hfa⟩ := bind_eq_ok hrun
  obtain ⟨rfl, ha⟩ := hp hpa
  exact hf a ha hfa

theorem accounts_of_finds {γ : Type} [Plain γ] {p : Parser γ}
    (h : ∀ s, Finds s (fun _ => True) p) : Accounts spot stock p where
  run {s} hs := by
    intro ctx a s' hrun
    obtain ⟨rfl, -⟩ := h s hrun
    exact ⟨hs, Nat.add_le_add_right (Nat.zero_le _) _⟩

instance : Accounts spot stock (get : Parser ParserState) :=
  accounts_of_finds fun _ _ _ _ h => ⟨(finds_get h).1, trivial⟩

instance : Accounts spot stock (read : Parser Context) := accounts_of_finds fun _ => finds_read

instance : Accounts spot stock (fail : Parser α) where
  run _ := by
    intro ctx a s' h
    cases h

instance (priority := high) (f : α → Parser β) : Accounts spot stock (fail >>= f) where
  run _ := by
    intro ctx a s' h
    cases h

theorem finds_succeeds {γ : Type} (p : Parser γ) : Finds s (fun _ => True) (succeeds p) := by
  have hlooks : Finds s (fun _ => True) (optionally (lookahead p)) := by
    intro ctx o s' h
    unfold optionally lookahead at h
    cases hp : p ctx s <;> simp only [hp] at h <;> cases h <;> exact ⟨rfl, trivial⟩
  exact hlooks.bind fun _ _ => finds_pure trivial

instance {γ : Type} (p : Parser γ) : Accounts spot stock (succeeds p) :=
  accounts_of_finds fun _ => finds_succeeds p

instance (lo : Nat) :
    Accounts spot stock (modify fun s => { s with arrowStart := some lo } : Parser Unit) where
  run hs := by
    intro ctx a s' h
    cases h
    exact ⟨hs.withArrow _, Nat.add_le_add_right (Nat.zero_le _) _⟩

instance : Accounts spot stock token := by unfold token; infer_instance
instance : Accounts spot stock peek := by unfold peek; infer_instance
instance : Accounts spot stock position := by unfold position; infer_instance
instance (lo : Nat) : Accounts spot stock (spanFrom lo) := by
  unfold spanFrom
  infer_instance
instance : Accounts spot stock typed := by unfold typed; infer_instance

theorem spanFrom_bind {γ : Type} (lo : Nat) (f : Span → Parser γ) :
    spanFrom lo >>= f = get >>= fun s => f ⟨lo, s.lastEnd⟩ :=
  rfl

instance (kind : Construct) (lo : Nat) (members : List Node)
    [Takes spot members stock rest] : Accounts spot stock (finish kind lo members) := by
  unfold finish
  infer_instance

-- A node that is made on the way is taken out of the stock where it is used.
instance (priority := high) (kind : Construct) (lo : Nat) (members : List Node)
    (f : Node → Parser β)
    [h : ∀ hi, Accounts spot stock (f (.construct kind ⟨lo, hi⟩ members))] :
    Accounts spot stock (finish kind lo members >>= f) where
  run {s} hs := (h s.lastEnd).run hs

/-! ### Moving on -/

/-- Going on with the token behind a place, from whatever state. -/
theorem moveTo_eq_ok {c : Cursor} (hc : (Cursor.ofText spot.text).Leads c) {ctx : Context}
    {u : Unit} {s' : ParserState} (h : moveTo c ctx s = .ok (u, s')) :
    Standing spot.text s' ∧ c.offset ≤ s'.start.offset := by
  cases h
  exact ⟨(standing_stateAt hc false).withArrow _, (Lexer.leads_start_read c false).offset_le⟩

theorem accountsFrom_moveTo (hs : Standing spot.text s) {c : Cursor} (hc : s.start.Leads c) :
    AccountsFrom spot s stock (moveTo c) := by
  intro ctx u s' hrun
  obtain ⟨hs', hle⟩ := moveTo_eq_ok (hs.leads.trans hc) hrun
  refine ⟨hs', Nat.add_le_add (Nat.zero_le _) (ahead_le_of_le ?_)⟩
  exact Nat.le_trans hc.offset_le hle

instance : Accounts spot stock advance where
  run hs := accountsFrom_moveTo hs hs.passes

/-- From the state, with the stock, a parser may move on from the place to any other that is further
on, and there have `hand` at hand. -/
def MovesFrom (spot : Spot) (s : ParserState) (stock : Nat) (place : Cursor) (hand : Nat) : Prop :=
  ∀ {γ : Type} [Counted γ] {c : Cursor} {f : Unit → Parser γ}, place.Leads c →
    Accounts spot hand (f ()) → AccountsFrom spot s stock (moveTo c >>= f)

theorem movesFrom_start (hs : Standing spot.text s) : MovesFrom spot s stock s.start stock := by
  intro γ _ c f hc hf
  rw [← Nat.zero_add stock]
  refine accountsFrom_bind (accountsFrom_moveTo hs hc) fun u => ?_
  rw [show count spot u = 0 from rfl, Nat.zero_add]
  exact hf

theorem movesFrom_stop (hs : Standing spot.text s) : MovesFrom spot s stock s.stop stock :=
  fun hc hf => movesFrom_start hs (hs.passes.trans hc) hf

/-- Behind the token that opens a literal, the literal is at hand. -/
theorem movesFrom_stop_of_opens (hs : Standing spot.text s) (hopens : opensLiteral s.token.kind) :
    MovesFrom spot s stock s.stop (begins spot s.token.span.lo + stock) := by
  obtain ⟨hlo, hdelimiter, hlt⟩ := hs.opens hopens
  intro γ _ c f hc hf ctx b s'' hrun
  obtain ⟨u, s', hmove, hrest⟩ := bind_eq_ok hrun
  obtain ⟨hs', hle⟩ := moveTo_eq_ok (hs.leads.trans (hs.passes.trans hc)) hmove
  obtain ⟨hs'', hcount⟩ := hf.run hs' hrest
  have hpassed : begins spot s.start.offset + ahead spot s'.start.offset ≤
      ahead spot s.start.offset :=
    begins_add_ahead_le hdelimiter (Nat.lt_of_lt_of_le hlt (Nat.le_trans hc.offset_le hle))
  rw [hlo] at hcount
  exact ⟨hs'', by omega⟩

theorem accounts_get_bind {f : ParserState → Parser β}
    (h : ∀ s, Standing spot.text s → AccountsFrom spot s stock (f s)) :
    Accounts spot stock (get >>= f) where
  run {s} hs := h s hs

theorem accounts_token_bind {f : Token → Parser β}
    (h : ∀ s, Standing spot.text s → AccountsFrom spot s stock (f s.token)) :
    Accounts spot stock (token >>= f) where
  run {s} hs := h s hs

theorem accountsFrom_advance_bind (hs : Standing spot.text s) (hopens : opensLiteral s.token.kind)
    {f : Unit → Parser β} (h : Accounts spot (begins spot s.token.span.lo + stock) (f ())) :
    AccountsFrom spot s stock (advance >>= f) :=
  movesFrom_stop_of_opens hs hopens (.refl _) h

/-! ### Signs and words -/

instance (sign : String) : Accounts spot stock (atSign sign) := by
  unfold atSign
  infer_instance
instance (signs : List String) : Accounts spot stock (atSignOf signs) := by
  unfold atSignOf
  infer_instance
instance (word : String) : Accounts spot stock (atWord word) := by
  unfold atWord
  infer_instance
instance (sign : String) : Accounts spot stock (eatSign sign) := by
  unfold eatSign
  infer_instance
instance (sign : String) : Accounts spot stock (expectSign sign) := by
  unfold expectSign
  infer_instance
instance (word : String) : Accounts spot stock (eatWord word) := by
  unfold eatWord
  infer_instance
instance (word : String) : Accounts spot stock (expectWord word) := by
  unfold expectWord
  infer_instance
instance : Accounts spot stock atImpliedEnd := by unfold atImpliedEnd; infer_instance
instance : Accounts spot stock endStatement := by unfold endStatement; infer_instance

/-! ### How runs end -/

/-- Every run of the parser ends with a value and a state for which this holds. -/
class Ends {γ : Type} (P : γ → ParserState → Prop) (p : Parser γ) : Prop where
  run : ∀ {ctx s a s'}, p ctx s = .ok (a, s') → P a s'

section Ends

variable {γ δ : Type} {P : γ → ParserState → Prop}

instance ends_bind (p : Parser δ) (f : δ → Parser γ) [h : ∀ a, Ends P (f a)] :
    Ends P (p >>= f) where
  run hrun := by
    obtain ⟨a, s', -, hfa⟩ := bind_eq_ok hrun
    exact (h a).run hfa

instance (c : Prop) [Decidable c] (p q : Parser γ) [Ends P p] [Ends P q] :
    Ends P (if c then p else q) := by
  split <;> infer_instance

instance : Ends P fail where
  run h := by cases h

instance (priority := high) (f : δ → Parser γ) : Ends P (fail >>= f) where
  run h := by cases h

end Ends

/-! ### Lists of items -/

/-- Counts what the outcome of a step leaves at hand, where something of its own is kept through all
steps until the last. -/
@[reducible] def keeping (own : Nat) : Counted (Step σ α) where
  count spot
    | .more state => count spot state + own
    | .done result => count spot result

instance (own : Nat) (state : σ) [h : Takes spot state stock own] :
    @Takes (Step σ α) (keeping own) spot (.more state) stock 0 :=
  @Takes.mk _ (keeping own) _ _ _ _ h.le

instance (own : Nat) (result : α) [h : Takes spot result stock rest] :
    @Takes (Step σ α) (keeping own) spot (.done result) stock rest :=
  @Takes.mk _ (keeping own) _ _ _ _ h.le

/-- A loop accounts for its literals if its first step does and every further step does, from the
states where the one before it leads. -/
theorem accountsFrom_iterate (own : Nat) (R : σ → ParserState → Prop)
    {step : σ → Parser (Step σ α)}
    (hends : ∀ x, Ends (fun r s => ∀ y, r = .more y → R y s) (step x))
    (hstep : ∀ x s, Standing spot.text s → R x s →
      @AccountsFrom _ (keeping own) spot s (count spot x + own) (step x))
    {fuel : Nat} {x : σ} (hfirst : @AccountsFrom _ (keeping own) spot s stock (step x)) :
    AccountsFrom spot s stock (iterate step fuel x) := by
  -- The stock changes from step to step: the first step may take it all, and each leaves to the next
  -- what is kept and what the state holds.
  induction fuel generalizing x s stock with
  | zero =>
    intro ctx a s' h
    cases h
  | succ fuel ih =>
    intro ctx a s' h
    obtain ⟨r, s₁, hr, hrest⟩ := bind_eq_ok h
    obtain ⟨hs₁, hle⟩ := hfirst hr
    cases r with
    | more y =>
      obtain ⟨hs', hle'⟩ := ih (hstep y s₁ hs₁ ((hends x).run hr y rfl)) hrest
      exact ⟨hs', Nat.le_trans hle' hle⟩
    | done result =>
      cases hrest
      exact ⟨hs₁, hle⟩

theorem accounts_repeating {state : σ} {step : σ → Parser (Step σ α)}
    [h : Takes spot state stock rest]
    (hstep : ∀ state, Accounts spot (count spot state) (step state)) :
    Accounts spot stock (repeating state step) := by
  refine accounts_bind_plain fun ctx => accounts_of_le (Nat.le_trans (Nat.le_add_right _ rest) h.le)
    ⟨fun hs => accountsFrom_iterate 0 (fun _ _ => True) ?_ ?_ ?_⟩
  · exact fun _ => ⟨fun _ _ _ => trivial⟩
  · exact fun x s hs _ => (hstep x).run hs
  · exact (hstep state).run hs

instance (state : σ) (step : σ → Parser (Step σ α)) [Takes spot state stock rest]
    [hstep : ∀ state, Accounts spot (count spot state + 0) (step state)] :
    Accounts spot stock (repeating state step) :=
  accounts_repeating hstep

instance (state : σ × β) (step : σ × β → Parser (Step (σ × β) α)) [Takes spot state stock rest]
    [hstep : ∀ a b, Accounts spot (count spot a + (count spot b + 0)) (step (a, b))] :
    Accounts spot stock (repeating state step) :=
  accounts_repeating fun state => hstep state.1 state.2

/-! ### Lists of items between which the text is read in another way -/

/-- A step that is not the last leaves the place behind the current token to the next. -/
def GoesOnBehind (outcome : Step (Cursor × σ) α) (s : ParserState) : Prop :=
  ∀ next, outcome = .more next → next.1 = s.stop

instance (result : α) :
    Ends GoesOnBehind (pure (.done result) : Parser (Step (Cursor × σ) α)) where
  run h := by
    cases h
    exact fun next hnext => by cases hnext

instance (priority := high) (x : σ) : Ends GoesOnBehind
    (get >>= fun s => pure (.more (s.stop, x)) : Parser (Step (Cursor × σ) α)) where
  run h := by
    cases h
    exact fun next hnext => by cases hnext; rfl

/-- A loop whose steps begin behind the current token and move on from there. -/
theorem accountsFrom_repeating (own : Nat) {step : Cursor × σ → Parser (Step (Cursor × σ) α)}
    {x : σ} (hs : Standing spot.text s) (hends : ∀ next, Ends GoesOnBehind (step next))
    (hstep : ∀ {place x s stock}, Standing spot.text s →
      MovesFrom spot s stock place (count spot x + own) →
      @AccountsFrom _ (keeping own) spot s stock (step (place, x)))
    (hfirst : MovesFrom spot s stock s.stop (count spot x + own)) :
    AccountsFrom spot s stock (repeating (s.stop, x) step) := by
  intro ctx a s' h
  refine accountsFrom_iterate own (fun next s => next.1 = s.stop) hends ?_ (hstep hs hfirst) h
  rintro ⟨place, x⟩ s hs rfl
  rw [show count spot (s.stop, x) = count spot x from Nat.zero_add _]
  exact hstep hs (movesFrom_stop hs)

instance (close : String) (item : Parser Node) [Accounts spot 0 item] :
    Accounts spot stock (itemsUntil close item) := by
  unfold itemsUntil
  infer_instance

instance (close : String) (item : Parser Node) [Accounts spot 0 item] :
    Accounts spot stock (commaItems close item) := by
  unfold commaItems
  refine accounts_repeating fun items => accounts_bind_plain fun closed => ?_
  split <;> infer_instance

end Parser

end ProseLint.Syntax
