import ProseLint.Proofs.Options.Members

/-!
# Options texts that are no object

Options are meant to be written as an object, but the reader also takes a list whose elements stand
for the members in their order. `ofText_error_iff_of_ne_object` says exactly which texts without an
object give options: the empty list, and the list of one list of texts. Every scalar and every other
list is rejected, whatever stands in it.
-/

namespace ProseLint.Options

open ProseLint.Json
open ProseLint.Text

/-! ## Lists -/

/-- The excludes that a list stands for. -/
def listed? : List Value → Option (List String)
  | [] => some []
  | [v] => excludesOf? v
  | _ => none

theorem listed?_eq_some_iff {vs : List Value} {es : List String} :
    listed? vs = some es ↔ vs = [] ∧ es = [] ∨ vs = [.array (es.map Value.text)] := by
  match vs with
  | [] => simp [listed?, eq_comm]
  | [v] => simp [listed?, excludesOf?_eq_some_iff]
  | _ :: _ :: _ => simp [listed?]

theorem opens_elementFirst : Opens .elementFirst (startExcludes .element) :=
  opens_of_stepOutside rfl fun c hc => by simp [stepOutside, hc]

/-- Nothing may follow the comma behind the only element. -/
theorem after?_elementComma {vs : List Value} {cs : List Char} (h : Spells (.elements vs) cs)
    (rest : List Char) : after? .elementComma (cs ++ rest) = none := by
  have hfirst {v : Value} {cs : List Char} (h : Spells (.element v) cs) (rest : List Char) :
      after? .elementComma (cs ++ rest) = none := by
    cases h with | element hbefore hvalue hafter =>
    obtain ⟨c, ds, rfl, hc⟩ := hvalue.value_head
    obtain ⟨hspace, hclose⟩ := isSpace_of_beginsWith hc
    have hnext : next? .elementComma c = none := by
      rw [next?_of_isBetween rfl, hspace, if_neg Bool.false_ne_true, stepOutside,
        if_neg (by simpa using hclose)]
      rfl
    rw [List.append_assoc, after?_blank rfl hbefore, List.append_assoc, List.cons_append,
      after?_cons, hnext, Option.bind_none]
  cases h with
  | lastElement h => exact hfirst h rest
  | nextElement h _ =>
    rw [List.append_assoc]
    exact hfirst h _

/-- The elements of a list, up to the bracket that closes it. -/
theorem after?_elements {vs : List Value} {cs : List Char} (h : Spells (.elements vs) cs)
    (rest : List Char) :
    after? .elementFirst (cs ++ ']' :: rest) =
      (listed? vs).bind fun es => after? (.done es) rest := by
  have hfirst {v : Value} {cs rest : List Char} (h : Spells (.element v) cs) (hrest : Ends rest) :
      after? .elementFirst (cs ++ rest) =
        (excludesOf? v).bind fun es => after? (.elementEnd es) rest := by
    cases h with | element hbefore hvalue hafter =>
    rw [opens_elementFirst.after?_element hbefore hvalue hafter ?_ (reads_excludes .element hvalue)
      hrest, Option.bind_map]
    · simp only [Function.comp_def, afterExcludes, List.reverse_reverse]
    · intro t ht
      obtain ⟨es, -, rfl⟩ := Option.map_eq_some_iff.1 ht
      rfl
  cases h with
  | lastElement h => exact hfirst h (ends_of_mem rest (by decide))
  | @nextElement v vs cs ds h hvs =>
    rw [List.append_assoc, List.cons_append, hfirst h (ends_of_mem _ (by decide))]
    have hcomma (es : List String) :
        after? (.elementEnd es) (',' :: (ds ++ ']' :: rest)) = none :=
      after?_elementComma hvs (']' :: rest)
    cases vs with
    | nil => cases hvs
    | cons w vs =>
      simp only [hcomma]
      cases excludesOf? v <;> rfl

theorem after?_list {vs : List Value} {cs : List Char} (h : Spells (.element (.array vs)) cs) :
    after? .start cs = (listed? vs).map State.done := by
  cases h with | @element _ before cs blank hbefore hvalue hblank =>
  rw [after?_blank rfl hbefore]
  cases hvalue with
  | emptyArray hinside =>
    rw [List.cons_append, List.append_assoc]
    refine (after?_blank (s := .elementFirst) rfl hinside (']' :: blank)).trans ?_
    exact after?_done [] hblank
  | array h =>
    rw [List.cons_append, List.append_assoc]
    refine (after?_elements h blank).trans ?_
    rw [Option.map_eq_bind]
    simp only [after?_done _ hblank, Function.comp_def]

/-! ## Scalars -/

/-- The first character of a text. -/
def startOptions (c : Char) : Outcome :=
  if c == '\x7b' then .ok .memberFirst
  else if c == '[' then .ok .elementFirst
  else startValue (.wrong .options) c

theorem reads_scalar_startOptions {v : Value} (hv : v.isScalar) {cs : List Char}
    (h : Spells (.value v) cs) : Reads startOptions none cs := by
  have hbrackets : v.beginsWith '\x7b' = false ∧ v.beginsWith '[' = false := by
    cases v with
    | array | object => cases hv
    | boolean value => cases value <;> decide
    | _ => exact ⟨rfl, rfl⟩
  intro rest hrest
  have hwrong := reads_of_not_beginsWith .options (.ok .elementFirst) hbrackets.2 h rest hrest
  obtain ⟨c, ds, rfl, hc⟩ := h.value_head
  have hne : c ≠ '\x7b' := by
    rintro rfl
    rw [hc] at hbrackets
    cases hbrackets.1
  rw [← hwrong, List.cons_append, begin?, begin?, startOptions, if_neg (by simpa using hne)]

/-- A scalar is a fault before the text ends or, if it is a numeral, where the text ends. -/
theorem after?_scalar {v : Value} (hv : v.isScalar) {cs : List Char} (h : Spells (.element v) cs) :
    (after? .start cs).bind (fun s => (finish s).toOption) = none := by
  cases h with | element hbefore hvalue hafter =>
  have hstart : Opens .start startOptions := opens_of_stepOutside rfl fun _ _ => rfl
  -- The reader knows a numeral to be over only when it sees what follows, so a blank is put there.
  have htarget : ∀ t ∈ (none : Option State), t.isBetween := by simp
  have hblank := hstart.after?_element hbefore hvalue hafter htarget
    (reads_scalar_startOptions hv hvalue) ⟨' ', [], rfl, by decide⟩
  rw [after?, List.foldlM_append] at hblank
  rw [Option.bind_eq_none_iff]
  intro s hs
  rw [after?] at hs
  rw [hs] at hblank
  cases s with
  | done entries => cases hblank
  | skipFirst _ bracket _ | skipEnd _ bracket _ => cases bracket <;> rfl
  | _ => rfl

/-! ## All texts without an object -/

theorem ofText_eq_ok_iff_of_ne_object {v : Value} {text : String}
    (h : Spells (.element v) text.toList) (hv : ∀ members, v ≠ .object members) {o : Options} :
    ofText text = .ok o ↔
      v = .array [] ∧ o.excludes = [] ∨ v = .array [.array (o.excludes.map Value.text)] := by
  rw [← toOption_eq_some_iff, toOption_ofText_eq, Option.map_eq_some_iff]
  cases v with
  | object members => exact absurd rfl (hv members)
  | array vs =>
    have hfinish : ((listed? vs).map State.done).bind (fun s => (finish s).toOption) =
        listed? vs := by
      cases listed? vs <;> rfl
    rw [after?_list h, hfinish, Value.array.injEq, Value.array.injEq, ← listed?_eq_some_iff]
    constructor
    · rintro ⟨es, hes, rfl⟩
      exact hes
    · exact fun hes => ⟨o.excludes, hes, rfl⟩
  | _ =>
    rw [after?_scalar rfl h]
    simp

/-- A text that holds a value other than an object is rejected, unless the value is the empty list
or a list of one list of texts. Of these two, the first gives no excludes and the second gives those
texts. -/
theorem ofText_error_iff_of_ne_object {v : Value} {text : String}
    (h : Spells (.element v) text.toList) (hv : ∀ members, v ≠ .object members) :
    ((∃ fault, ofText text = .error fault) ↔
      v ≠ .array [] ∧ ∀ es : List String, v ≠ .array [.array (es.map Value.text)]) ∧
    (v = .array [] → ofText text = .ok {}) ∧
    ∀ es : List String, v = .array [.array (es.map Value.text)] → ofText text = .ok ⟨es⟩ := by
  have hempty (hlist : v = .array []) : ofText text = .ok {} :=
    (ofText_eq_ok_iff_of_ne_object h hv).2 (.inl ⟨hlist, rfl⟩)
  have hnested (es : List String) (hlist : v = .array [.array (es.map Value.text)]) :
      ofText text = .ok ⟨es⟩ :=
    (ofText_eq_ok_iff_of_ne_object h hv).2 (.inr hlist)
  refine ⟨⟨?_, ?_⟩, hempty, hnested⟩
  · rintro ⟨fault, hfault⟩
    refine ⟨fun hlist => ?_, fun es hlist => ?_⟩
    · rw [hempty hlist] at hfault
      cases hfault
    · rw [hnested es hlist] at hfault
      cases hfault
  · rintro ⟨hne, hne'⟩
    cases hread : ofText text with
    | error fault => exact ⟨fault, rfl⟩
    | ok o =>
      rcases (ofText_eq_ok_iff_of_ne_object h hv).1 hread with ⟨hlist, -⟩ | hlist
      · exact absurd hlist hne
      · exact absurd hlist (hne' o.excludes)

/-- The empty list gives options, a list of two elements gives none. -/
theorem ofText_error_iff_of_ne_object_lists :
    Spells (.element (.array [])) "[ ]".toList ∧ ofText "[ ]" = .ok {} ∧
    Spells (.element (.array [.array [.text "t"], .null])) "[[\"t\"],null]".toList ∧
    ∃ fault, ofText "[[\"t\"],null]" = .error fault := by
  have hspace : IsBlank [' '] := by simp [IsBlank]
  have hempty : Spells (.element (.array [])) "[ ]".toList :=
    Spells.asElement (.emptyArray hspace)
  have htexts : Spells (.value (.array [.text "t"])) "[\"t\"]".toList :=
    .array (.lastElement (Spells.asElement
      (.string ⟨['t'], spellsUnits_encode (by decide), rfl⟩)))
  have hpair : Spells (.element (.array [.array [.text "t"], .null])) "[[\"t\"],null]".toList :=
    Spells.asElement (.array (.nextElement htexts.asElement (.lastElement Spells.null.asElement)))
  refine ⟨hempty, (ofText_error_iff_of_ne_object hempty (by simp)).2.1 rfl, hpair, ?_⟩
  exact (ofText_error_iff_of_ne_object hpair (by simp)).1.2 ⟨by simp, by simp⟩

end ProseLint.Options
