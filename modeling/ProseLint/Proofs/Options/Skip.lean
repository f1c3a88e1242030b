import ProseLint.Proofs.Options.Run

/-!
# Values that are passed over

The reader passes over the values of unknown members, and it stops at values of a wrong type. In
both cases it does not matter which value it is: a scalar leads to one state, or to a fault
(`Indifferent`), and so does a value of any depth (`skips`, `reads_wrong`). What follows a value is
part of the statements, since a numeral ends only where another token begins.
-/

namespace ProseLint.Options

open ProseLint.Json
open ProseLint.Text

/-! ## Scalars -/

/-- Every scalar that is read for this purpose leads to the same state, or is a fault. -/
structure Indifferent (purpose : Purpose) (target? : Option State) : Prop where
  scalar?_eq : ∀ value, scalar? purpose value = target?
  isBetween : ∀ s ∈ target?, s.isBetween
  isSkipped_or_eq_none : purpose.isSkipped ∨ target? = none

theorem indifferent_wrong (expected : Expected) : Indifferent (.wrong expected) none where
  scalar?_eq value := by cases value <;> rfl
  isBetween s hs := by cases hs
  isSkipped_or_eq_none := .inr rfl

theorem indifferent_skipped (progress : Progress) (brackets : List Bracket) :
    Indifferent (.skipped progress brackets) (some (afterSkipped progress brackets)) where
  scalar?_eq value := by cases value <;> rfl
  isBetween s hs := by
    cases Option.mem_some.1 hs
    exact isBetween_afterSkipped progress brackets
  isSkipped_or_eq_none := .inl rfl

theorem indifferent_skippedKey (progress : Progress) (brackets : List Bracket) :
    Indifferent (.skippedKey progress brackets) (some (.skipColon progress brackets)) where
  scalar?_eq value := by cases value <;> rfl
  isBetween s hs := by
    cases Option.mem_some.1 hs
    rfl
  isSkipped_or_eq_none := .inl rfl

section Indifferent

variable {purpose : Purpose} {target? : Option State} (hpurpose : Indifferent purpose target?)
include hpurpose

/-- A string that is passed over need not stand for a text. -/
theorem Indifferent.after?_skipped (hskipped : purpose.isSkipped) {units : List UInt16}
    {inner : List Char} (h : SpellsUnits units inner) (read rest : List Char) :
    after? (.text purpose read .plain) (inner ++ '\x22' :: rest) =
      target?.bind (after? · rest) := by
  induction h generalizing read with
  | nil => rw [List.nil_append, after?_quote, text?, hpurpose.scalar?_eq]
  | plain hquote hescape hcontrol _ ih =>
    rw [List.cons_append, after?_plain _ _ _ hquote hescape hcontrol, ih]
  | escape hletter _ ih =>
    rw [List.cons_append, List.cons_append, after?_escape _ _ _ hletter, ih]
  | code ha hb hc hd _ ih =>
    refine (after?_digits purpose read _ none ha hb hc hd).trans ?_
    rw [endCode, if_pos hskipped]
    exact ih read

theorem Indifferent.after?_string {units : List UInt16} {inner : List Char}
    (h : SpellsUnits units inner) (rest : List Char) :
    after? (.text purpose [] .plain) (inner ++ '\x22' :: rest) =
      target?.bind (after? · rest) := by
  cases hskipped : purpose.isSkipped with
  | true => exact hpurpose.after?_skipped hskipped h [] rest
  | false =>
    obtain rfl : target? = none := by simpa [hskipped] using hpurpose.isSkipped_or_eq_none
    rw [Options.after?_string hskipped h]
    cases Utf16.decode? units with
    | none => rfl
    | some cs => exact congrArg (Option.bind · _) (hpurpose.scalar?_eq _)

end Indifferent

/-! ## Numerals -/

/-- What stands behind a value: a blank or the mark that ends the value. -/
def Ends (rest : List Char) : Prop :=
  ∃ c cs, rest = c :: cs ∧ c ∈ [' ', '\t', '\n', '\r', ',', ']', '\x7d']

/-- In this state of a numeral, what is left of it is read to its end. -/
def ReadsNumeral (purpose : Purpose) (target? : Option State) (rest : List Char)
    (state : NumberState) (cs : List Char) : Prop :=
  ∀ n, after? (.number purpose n state) (cs ++ rest) = target?.bind (after? · rest)

/-- A numeral may end in this state. -/
def NumberState.isComplete : NumberState → Bool
  | .zero | .whole | .fraction | .exponent => true
  | _ => false

/-- The state behind the first digit. -/
def NumberState.ofFirst (c : Char) : NumberState := if c = '0' then .zero else .whole

/-- The state behind one more digit, where a digit is no fault. -/
def NumberState.behindDigit? (c : Char) : NumberState → Option NumberState
  | .minus => some (.ofFirst c)
  | .whole => some .whole
  | .point | .fraction => some .fraction
  | .mark | .sign => some .exponent
  | .zero | .exponent => none

theorem next?_digit {purpose : Purpose} {state next : NumberState} {c : Char} (hc : c.isDigit)
    (h : state.behindDigit? c = some next) (n : Numeral) :
    ∃ n', next? (.number purpose n state) c = some (.number purpose n' next) := by
  have hplus : c ≠ '+' := by rintro rfl; cases hc
  have hminus : c ≠ '-' := by rintro rfl; cases hc
  cases state with
  | minus =>
    cases h
    by_cases hzero : c = '0' <;>
      simp [next?, step, stepNumber, hc, hzero, NumberState.ofFirst, Except.toOption]
  | zero | exponent => cases h
  | _ =>
    cases h
    simp [next?, step, stepNumber, hc, hplus, hminus, Except.toOption]

theorem startValue_of_isDigit (purpose : Purpose) {c : Char} (hc : c.isDigit) :
    ∃ n, startValue purpose c = .ok (.number purpose n (.ofFirst c)) := by
  by_cases hzero : c = '0'
  · subst c
    exact ⟨_, rfl⟩
  · refine ⟨Numeral.addWhole { negative := false } c, ?_⟩
    rw [NumberState.ofFirst, if_neg hzero]
    unfold startValue
    split
    case h_6 => exact absurd rfl hzero
    case h_9 => rw [if_pos hc]
    all_goals cases hc

theorem ReadsNumeral.cons {purpose : Purpose} {target? : Option State} {rest cs : List Char}
    {state next : NumberState} {c : Char}
    (hnext : ∀ n, ∃ n', next? (.number purpose n state) c = some (.number purpose n' next))
    (h : ReadsNumeral purpose target? rest next cs) :
    ReadsNumeral purpose target? rest state (c :: cs) := by
  intro n
  obtain ⟨n', hn'⟩ := hnext n
  rw [List.cons_append, after?_cons, hn']
  exact h n'

/-- Digits that do not change the state. -/
theorem ReadsNumeral.digits {purpose : Purpose} {target? : Option State} {rest cs : List Char}
    {state : NumberState} (hstate : ∀ c, state.behindDigit? c = some state)
    {digits : List Char} (hdigits : ∀ c ∈ digits, c.isDigit)
    (h : ReadsNumeral purpose target? rest state cs) :
    ReadsNumeral purpose target? rest state (digits ++ cs) := by
  induction digits with
  | nil => exact h
  | cons c digits ih =>
    exact .cons (next?_digit (hdigits c List.mem_cons_self) (hstate c))
      (ih fun d hd => hdigits d (List.mem_cons_of_mem _ hd))

section Numerals

variable {purpose : Purpose} {target? : Option State} {rest : List Char}
  (hpurpose : Indifferent purpose target?) (hrest : Ends rest)
include hpurpose hrest

/-- The numeral ends where the mark behind the value stands. -/
theorem readsNumeral_nil {state : NumberState} (hstate : state.isComplete) :
    ReadsNumeral purpose target? rest state [] := by
  intro n
  obtain ⟨c, cs, rfl, hc⟩ := hrest
  have hnumber : stepNumber purpose n c state = none := by
    have hmarks : ∀ c ∈ [' ', '\t', '\n', '\r', ',', ']', '\x7d'],
        c.isDigit = false ∧ c ≠ '.' ∧ c ≠ 'e' ∧ c ≠ 'E' := by simp
    obtain ⟨hdigit, hpoint, he, hE⟩ := hmarks c hc
    cases state with
    | minus | point | mark | sign => cases hstate
    | _ => simp [stepNumber, hdigit, hpoint, he, hE]
  have hnext : next? (.number purpose n state) c = target?.bind (next? · c) := by
    rw [← hpurpose.scalar?_eq (.number n), scalar?, next?, step, hnumber]
    cases hscalar : afterScalar purpose (.number n) with
    | error cause => rfl
    | ok s =>
      have hs : s.isBetween := hpurpose.isBetween s <| by
        rw [← hpurpose.scalar?_eq (.number n), scalar?, hscalar]
        rfl
      exact congrArg Except.toOption (step_of_isBetween hs c).symm
  rw [List.nil_append, after?_cons, hnext, Option.bind_assoc]
  rfl

theorem readsNumeral_exponentDigits {digits : List Char} (hdigits : ∀ c ∈ digits, c.isDigit) :
    ReadsNumeral purpose target? rest .exponent digits := by
  induction digits with
  | nil => exact readsNumeral_nil hpurpose hrest rfl
  | cons c digits ih =>
    intro n
    have hc := hdigits c List.mem_cons_self
    have hih := ih fun d hd => hdigits d (List.mem_cons_of_mem _ hd)
    by_cases hover : ((n.addExponent c).exponentOverflows && !purpose.isSkipped) = true
    · -- A number of the wrong type may also be too large, and there is a fault in either case.
      have hnext : next? (.number purpose n .exponent) c = none := by
        simp only [next?, step, stepNumber, hc, hover, if_true]
        rfl
      have hskipped : ¬ purpose.isSkipped := by
        rw [Bool.and_eq_true, Bool.not_eq_true'] at hover
        simp [hover.2]
      rw [List.cons_append, after?_cons, hnext, hpurpose.isSkipped_or_eq_none.resolve_left hskipped]
      rfl
    · have hnext : next? (.number purpose n .exponent) c =
          some (.number purpose (n.addExponent c) .exponent) := by
        simp only [next?, step, stepNumber, hc, hover, if_true]
        rfl
      rw [List.cons_append, after?_cons, hnext]
      exact hih _

theorem readsNumeral_exponent {state : NumberState} (hstate : state.isComplete)
    (hexponent : state ≠ .exponent) {cs : List Char} (h : IsExponent cs) :
    ReadsNumeral purpose target? rest state cs := by
  rcases h with rfl | ⟨mark, sign, digits, hmark, hsign, ⟨hne, hdigits⟩, rfl⟩
  · exact readsNumeral_nil hpurpose hrest hstate
  have hnext (n : Numeral) : next? (.number purpose n state) mark =
      some (.number purpose n.addMark .mark) := by
    simp only [List.mem_cons, List.not_mem_nil, or_false] at hmark
    cases state with
    | minus | point | mark | sign => cases hstate
    | exponent => exact absurd rfl hexponent
    | _ => rcases hmark with rfl | rfl <;> rfl
  refine .cons (fun n => ⟨_, hnext n⟩) ?_
  obtain ⟨c, ds, rfl⟩ := List.exists_cons_of_ne_nil hne
  have hc := hdigits c List.mem_cons_self
  have hds : ReadsNumeral purpose target? rest .exponent ds :=
    readsNumeral_exponentDigits hpurpose hrest fun d hd => hdigits d (List.mem_cons_of_mem _ hd)
  have hsigned : ReadsNumeral purpose target? rest .sign (c :: ds) :=
    .cons (next?_digit hc rfl) hds
  simp only [List.mem_cons, List.not_mem_nil, or_false] at hsign
  rcases hsign with rfl | rfl | rfl
  · exact .cons (next?_digit hc rfl) hds
  · exact .cons (fun n => ⟨n, rfl⟩) hsigned
  · exact .cons (fun n => ⟨_, rfl⟩) hsigned

theorem readsNumeral_fraction {state : NumberState} (hstate : state = .zero ∨ state = .whole)
    {fraction exponent : List Char} (hfraction : IsFraction fraction)
    (hexponent : IsExponent exponent) :
    ReadsNumeral purpose target? rest state (fraction ++ exponent) := by
  rcases hfraction with rfl | ⟨digits, ⟨hne, hdigits⟩, rfl⟩
  · refine readsNumeral_exponent hpurpose hrest ?_ ?_ hexponent <;> rcases hstate with rfl | rfl <;>
      decide
  have hnext (n : Numeral) : next? (.number purpose n state) '.' =
      some (.number purpose n.addPoint .point) := by
    rcases hstate with rfl | rfl <;> rfl
  refine .cons (fun n => ⟨_, hnext n⟩) ?_
  obtain ⟨c, ds, rfl⟩ := List.exists_cons_of_ne_nil hne
  refine .cons (next?_digit (hdigits c List.mem_cons_self) rfl) ?_
  refine .digits (fun _ => rfl) (fun d hd => hdigits d (List.mem_cons_of_mem _ hd)) ?_
  exact readsNumeral_exponent hpurpose hrest rfl (by decide) hexponent

theorem readsNumeral_first {c : Char} {digits fraction exponent : List Char}
    (hzero : c = '0' → digits = []) (hdigits : ∀ d ∈ digits, d.isDigit)
    (hfraction : IsFraction fraction) (hexponent : IsExponent exponent) :
    ReadsNumeral purpose target? rest (.ofFirst c) (digits ++ (fraction ++ exponent)) := by
  by_cases hc : c = '0'
  · rw [NumberState.ofFirst, if_pos hc, hzero hc, List.nil_append]
    exact readsNumeral_fraction hpurpose hrest (.inl rfl) hfraction hexponent
  · rw [NumberState.ofFirst, if_neg hc]
    exact .digits (fun _ => rfl) hdigits
      (readsNumeral_fraction hpurpose hrest (.inr rfl) hfraction hexponent)

end Numerals

/-! ## Values in their places -/

/-- The state behind a text whose first character is read by `start`. -/
def begin? (start : Char → Outcome) : List Char → Option State
  | [] => none
  | c :: cs => (start c).toOption.bind (after? · cs)

/-- A value that is written so is read to its end, whatever follows it. -/
def Reads (start : Char → Outcome) (target? : Option State) (cs : List Char) : Prop :=
  ∀ rest, Ends rest → begin? start (cs ++ rest) = target?.bind (after? · rest)

/-- In this state a value may begin, and `start` reads its first character. -/
structure Opens (s : State) (start : Char → Outcome) : Prop where
  isBetween : s.isBetween
  next?_eq : ∀ c, isSpace c = false → c ≠ ']' → next? s c = (start c).toOption

theorem opens_of_stepOutside {s : State} {start : Char → Outcome} (hs : s.isBetween)
    (h : ∀ c, c ≠ ']' → stepOutside c s = start c) : Opens s start where
  isBetween := hs
  next?_eq c hspace hc := by
    rw [next?_of_isBetween hs, if_neg (by simp [hspace]), h c hc]

theorem isSpace_of_beginsWith {v : Value} {c : Char} (h : v.beginsWith c) :
    isSpace c = false ∧ c ≠ ']' := by
  have hdigit (hc : c.isDigit) : isSpace c = false ∧ c ≠ ']' := by
    refine ⟨?_, by rintro rfl; cases hc⟩
    rw [← Bool.not_eq_true]
    intro hspace
    simp only [isSpace, Bool.or_eq_true, beq_iff_eq] at hspace
    rcases hspace with ((rfl | rfl) | rfl) | rfl <;> cases hc
  cases v with
  | number numeral =>
    simp only [Value.beginsWith, Bool.or_eq_true, beq_iff_eq] at h
    rcases h with rfl | hc
    · decide
    · exact hdigit hc
  | boolean value =>
    obtain rfl := beq_iff_eq.1 h
    cases value <;> decide
  | _ =>
    obtain rfl := beq_iff_eq.1 h
    decide

theorem Ends.blank {rest : List Char} (h : Ends rest) {blank : List Char} (hblank : IsBlank blank) :
    Ends (blank ++ rest) := by
  cases blank with
  | nil => exact h
  | cons c cs =>
    have hc : c ∈ [' ', '\t', '\n', '\r'] := hblank c List.mem_cons_self
    exact ⟨c, cs ++ rest, rfl, List.mem_append_left [',', ']', '\x7d'] hc⟩

/-- A value is read with the blanks around it. -/
theorem Opens.after?_element {s : State} {start : Char → Outcome} (hs : Opens s start) {v : Value}
    {before cs after : List Char} (hbefore : IsBlank before) (hvalue : Spells (.value v) cs)
    (hafter : IsBlank after) {target? : Option State} (htarget : ∀ t ∈ target?, t.isBetween)
    (hreads : Reads start target? cs) {rest : List Char} (hrest : Ends rest) :
    after? s (before ++ (cs ++ after) ++ rest) = target?.bind (after? · rest) := by
  have hbegin : after? s (cs ++ (after ++ rest)) = begin? start (cs ++ (after ++ rest)) := by
    obtain ⟨c, ds, rfl, hc⟩ := hvalue.value_head
    obtain ⟨hspace, hclose⟩ := isSpace_of_beginsWith hc
    rw [List.cons_append, after?_cons, hs.next?_eq c hspace hclose]
    rfl
  rw [List.append_assoc, List.append_assoc, after?_blank hs.isBetween hbefore, hbegin,
    hreads _ (hrest.blank hafter)]
  cases target? with
  | none => rfl
  | some t => exact after?_blank (htarget t rfl) hafter rest

/-- A numeral from its first character on. -/
theorem Indifferent.reads_numeral {purpose : Purpose} {target? : Option State}
    (hpurpose : Indifferent purpose target?) {cs : List Char} (h : IsNumeral cs) :
    Reads (startValue purpose) target? cs := by
  intro rest hrest
  obtain @⟨sign, whole, fraction, exponent, hsign, hwhole, hfraction, hexponent⟩ := h
  obtain ⟨c, ds, rfl, hc, hzero, hdigits⟩ := hwhole.exists_cons
  have htail := readsNumeral_first hpurpose hrest hzero hdigits hfraction hexponent
  simp only [List.mem_cons, List.not_mem_nil, or_false] at hsign
  rcases hsign with rfl | rfl
  · obtain ⟨n, hstart⟩ := startValue_of_isDigit purpose hc
    simp only [List.nil_append, List.cons_append, begin?, hstart]
    exact htail n
  · have hminus : ReadsNumeral purpose target? rest .minus (c :: (ds ++ (fraction ++ exponent))) :=
      .cons (next?_digit hc rfl) htail
    exact hminus _

/-! ## Values of any depth -/

theorem Indifferent.reads_scalar {purpose : Purpose} {target? : Option State}
    (hpurpose : Indifferent purpose target?) {v : Value} (hv : v.isScalar) {cs : List Char}
    (h : Spells (.value v) cs) : Reads (startValue purpose) target? cs := by
  cases h with
  | number h => exact hpurpose.reads_numeral h
  | string h =>
    obtain ⟨inner, hinner, rfl⟩ := h
    intro rest _
    rw [List.cons_append, List.append_assoc]
    exact hpurpose.after?_string hinner rest
  | null | true | false =>
    intro rest _
    rw [← hpurpose.scalar?_eq]
    exact after?_word purpose _ _ _ rest
  | emptyArray | array | emptyObject | object => cases hv

/-- A value of a wrong type is a fault, however long it is. -/
theorem reads_wrong (expected : Expected) {v : Value} {cs : List Char}
    (h : Spells (.value v) cs) : Reads (startValue (.wrong expected)) none cs := by
  cases hv : v.isScalar with
  | true => exact (indifferent_wrong expected).reads_scalar hv h
  | false =>
    cases h with
    | emptyArray | array | emptyObject | object => exact fun rest _ => rfl
    | _ => cases hv

/-- In this state a key may begin that is read for the purpose. -/
structure AwaitsKey (s : State) (purpose : Purpose) : Prop where
  isBetween : s.isBetween
  next?_quote : next? s '\x22' = some (.text purpose [] .plain)

theorem AwaitsKey.after?_key {s : State} {purpose : Purpose} (hs : AwaitsKey s purpose)
    {before inner rest : List Char} (hbefore : IsBlank before) :
    after? s (before ++ ('\x22' :: (inner ++ ['\x22']) ++ rest)) =
      after? (.text purpose [] .plain) (inner ++ '\x22' :: rest) := by
  rw [after?_blank hs.isBetween hbefore, List.cons_append, after?_cons, hs.next?_quote,
    Option.bind_some, List.append_assoc]
  rfl

/-- A phrase of an unknown member is passed over, wherever in its value it stands. -/
def Skips (progress : Progress) : Phrase → List Char → Prop
  | .value _, cs => ∀ brackets,
    Reads (startValue (.skipped progress brackets)) (some (afterSkipped progress brackets)) cs
  | .element _, cs => ∀ brackets s rest, Opens s (startValue (.skipped progress brackets)) →
    Ends rest → after? s (cs ++ rest) = after? (afterSkipped progress brackets) rest
  | .elements _, cs => ∀ outer s rest,
    Opens s (startValue (.skipped progress (.list :: outer))) →
    after? s (cs ++ ']' :: rest) = after? (afterSkipped progress outer) rest
  | .member _, cs => ∀ brackets s rest, AwaitsKey s (.skippedKey progress brackets) →
    Ends rest → after? s (cs ++ rest) = after? (afterSkipped progress brackets) rest
  | .members _, cs => ∀ outer s rest, AwaitsKey s (.skippedKey progress (.object :: outer)) →
    after? s (cs ++ '\x7d' :: rest) = after? (afterSkipped progress outer) rest

theorem opens_skipValue (progress : Progress) (brackets : List Bracket) :
    Opens (.skipValue progress brackets) (startValue (.skipped progress brackets)) :=
  opens_of_stepOutside rfl fun _ _ => rfl

theorem opens_skipFirst (progress : Progress) (outer : List Bracket) :
    Opens (.skipFirst progress .list outer) (startValue (.skipped progress (.list :: outer))) :=
  opens_of_stepOutside rfl fun c hc => by simp [stepOutside, hc]

theorem ends_of_mem {c : Char} (rest : List Char) (h : c ∈ [',', ']', '\x7d']) : Ends (c :: rest) :=
  ⟨c, rest, rfl, List.mem_append_right [' ', '\t', '\n', '\r'] h⟩

/-- Every phrase is passed over, of whatever depth. -/
theorem skips (progress : Progress) {phrase : Phrase} {cs : List Char} (h : Spells phrase cs) :
    Skips progress phrase cs := by
  -- One case for each rule of the grammar. What is closed is the innermost bracket only, so the
  -- brackets outside stay arbitrary all the way.
  induction h with
  | null => exact fun brackets => (indifferent_skipped progress brackets).reads_scalar rfl .null
  | true => exact fun brackets => (indifferent_skipped progress brackets).reads_scalar rfl .true
  | false => exact fun brackets => (indifferent_skipped progress brackets).reads_scalar rfl .false
  | number h =>
    exact fun brackets => (indifferent_skipped progress brackets).reads_scalar rfl (.number h)
  | string h =>
    exact fun brackets => (indifferent_skipped progress brackets).reads_scalar rfl (.string h)
  | emptyArray hblank =>
    intro brackets rest _
    rw [List.cons_append, List.append_assoc]
    exact after?_blank (s := .skipFirst progress .list brackets) rfl hblank (']' :: rest)
  | emptyObject hblank =>
    intro brackets rest _
    rw [List.cons_append, List.append_assoc]
    exact after?_blank (s := .skipFirst progress .object brackets) rfl hblank ('\x7d' :: rest)
  | array _ ih =>
    intro brackets rest _
    rw [List.cons_append, List.append_assoc]
    exact ih brackets _ rest (opens_skipFirst progress brackets)
  | object _ ih =>
    intro brackets rest _
    rw [List.cons_append, List.append_assoc]
    exact ih brackets (.skipFirst progress .object brackets) rest ⟨rfl, rfl⟩
  | element hbefore hvalue hafter ih =>
    intro brackets s rest hs hrest
    exact hs.after?_element hbefore hvalue hafter (indifferent_skipped progress brackets).isBetween
      (ih brackets) hrest
  | lastElement _ ih =>
    intro outer s rest hs
    rw [ih (.list :: outer) s _ hs (ends_of_mem rest (by decide))]
    rfl
  | nextElement _ _ ihFirst ihRest =>
    intro outer s rest hs
    rw [List.append_assoc, List.cons_append, ihFirst _ s _ hs (ends_of_mem _ (by decide))]
    exact ihRest outer _ rest (opens_skipValue progress (.list :: outer))
  | member hbefore hkey hafter _ ih =>
    intro brackets s rest hs hrest
    obtain ⟨inner, hinner, rfl⟩ := hkey
    rw [List.append_assoc, List.append_assoc, hs.after?_key hbefore,
      (indifferent_skippedKey progress brackets).after?_string hinner, Option.bind_some,
      List.append_assoc, after?_blank rfl hafter]
    exact ih brackets _ rest (opens_skipValue progress brackets) hrest
  | lastMember _ ih =>
    intro outer s rest hs
    rw [ih (.object :: outer) s _ hs (ends_of_mem rest (by decide))]
    rfl
  | nextMember _ _ ihFirst ihRest =>
    intro outer s rest hs
    rw [List.append_assoc, List.cons_append, ihFirst _ s _ hs (ends_of_mem _ (by decide))]
    exact ihRest outer (.skipKey progress (.object :: outer)) rest ⟨rfl, rfl⟩

end ProseLint.Options
