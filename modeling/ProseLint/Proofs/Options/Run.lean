import Mathlib.Data.List.Basic
import ProseLint.Options
import ProseLint.Proofs.Json.Grammar
import ProseLint.Proofs.Text.Utf16

/-!
# Runs of the options reader

For which options a text gives it does not matter where in the text a fault shows. `after?` is the
state behind a text, without faults and their places (`toOption_read`). The lemmas here read blanks,
words and strings, each with the text that follows it. A string that must stand for a text is read
as what its code units stand for (`after?_string`).
-/

namespace ProseLint.Options

open ProseLint.Json
open ProseLint.Text

/-- The state behind one character, if it is no fault. -/
def next? (s : State) (c : Char) : Option State := (step s c).toOption

/-- The state behind a text, if there is no fault in it. -/
def after? (s : State) (cs : List Char) : Option State := cs.foldlM next? s

@[simp] theorem after?_nil (s : State) : after? s [] = some s := rfl

theorem after?_cons (s : State) (c : Char) (cs : List Char) :
    after? s (c :: cs) = (next? s c).bind (after? · cs) := rfl

theorem toOption_eq_some_iff {ε α : Type} {x : Except ε α} {a : α} :
    x.toOption = some a ↔ x = .ok a := by
  cases x <;> simp [Except.toOption]

theorem toOption_run (s : State) (offset : Nat) (cs : List Char) :
    (run s offset cs).toOption = after? s cs := by
  induction cs generalizing s offset with
  | nil => rfl
  | cons c cs ih =>
    rw [run, after?_cons, next?]
    cases step s c with
    | error fault => rfl
    | ok next => exact ih next _

/-- A text gives the excludes that its end means, if there is no fault before it. -/
theorem toOption_read (text : List Char) :
    (read text).toOption = (after? .start text).bind fun s => (finish s).toOption := by
  rw [read, ← toOption_run .start 0]
  cases run .start 0 text with
  | error fault => rfl
  | ok s =>
    show _ = (finish s).toOption
    cases h : finish s <;> simp only [h] <;> rfl

theorem toOption_ofText_eq (text : String) :
    (ofText text).toOption =
      ((after? .start text.toList).bind fun s => (finish s).toOption).map Options.mk := by
  rw [ofText, ← toOption_read]
  cases read text.toList <;> rfl

/-! ## Between tokens -/

/-- No token is being read. -/
def State.isBetween : State → Bool
  | .text .. | .word .. | .number .. => false
  | _ => true

theorem step_of_isBetween {s : State} (h : s.isBetween) (c : Char) :
    step s c = stepBetween s c := by
  cases s with
  | text | word | number => cases h
  | _ => rfl

theorem next?_of_isBetween {s : State} (h : s.isBetween) (c : Char) :
    next? s c = if isSpace c then some s else (stepOutside c s).toOption := by
  rw [next?, step_of_isBetween h, stepBetween]
  split <;> rfl

theorem isSpace_of_mem {c : Char} (h : c ∈ [' ', '\t', '\n', '\r']) : isSpace c := by
  simp only [List.mem_cons, List.not_mem_nil, or_false] at h
  rcases h with rfl | rfl | rfl | rfl <;> rfl

theorem after?_blank {s : State} (h : s.isBetween) {blank : List Char} (hblank : IsBlank blank)
    (rest : List Char) : after? s (blank ++ rest) = after? s rest := by
  induction blank with
  | nil => rfl
  | cons c blank ih =>
    rw [List.cons_append, after?_cons, next?_of_isBetween h,
      if_pos (isSpace_of_mem (hblank c List.mem_cons_self)), Option.bind_some]
    exact ih fun d hd => hblank d (List.mem_cons_of_mem _ hd)

/-- Blanks may follow the whole value. -/
theorem after?_done (entries : List String) {blank : List Char} (hblank : IsBlank blank) :
    after? (.done entries) blank = some (.done entries) := by
  simpa using after?_blank (s := .done entries) rfl hblank []

theorem isBetween_afterSkipped (progress : Progress) (brackets : List Bracket) :
    (afterSkipped progress brackets).isBetween := by
  cases brackets <;> rfl

/-! ## Words -/

/-- The state behind a scalar that is right for its purpose. -/
def scalar? (purpose : Purpose) (value : Found) : Option State :=
  (afterScalar purpose value).toOption

theorem after?_word (purpose : Purpose) (value : Found) (c : Char) (left rest : List Char) :
    after? (.word purpose value (c :: left)) (c :: (left ++ rest)) =
      (scalar? purpose value).bind (after? · rest) := by
  induction left generalizing c with
  | nil =>
    have hnext : next? (.word purpose value [c]) c = scalar? purpose value := by
      simp only [next?, step, stepWord, bne_self_eq_false, Bool.false_eq_true, if_false, scalar?]
      cases afterScalar purpose value <;> rfl
    rw [after?_cons, hnext]
    rfl
  | cons d left ih =>
    have hnext : next? (.word purpose value (c :: d :: left)) c =
        some (.word purpose value (d :: left)) := by
      simp [next?, step, stepWord, Except.toOption]
    rw [after?_cons, hnext]
    exact ih d

/-! ## Strings -/

/-- The state behind a string that stands for this text. -/
def text? (purpose : Purpose) (cs : List Char) : Option State :=
  scalar? purpose (.string (String.ofList cs))

section Strings

variable (purpose : Purpose) (read rest : List Char)

theorem after?_quote :
    after? (.text purpose read .plain) ('\x22' :: rest) =
      (text? purpose read.reverse).bind (after? · rest) := by
  have hnext : next? (.text purpose read .plain) '\x22' = text? purpose read.reverse := by
    simp only [next?, step, stepText, beq_self_eq_true, if_true, text?, scalar?]
    cases afterScalar purpose (.string (String.ofList read.reverse)) <;> rfl
  rw [after?_cons, hnext]

theorem after?_plain {c : Char} (hquote : c ≠ '\x22') (hescape : c ≠ '\\')
    (hcontrol : 0x20 ≤ c.toNat) :
    after? (.text purpose read .plain) (c :: rest) =
      after? (.text purpose (c :: read) .plain) rest := by
  have hnext : next? (.text purpose read .plain) c = some (.text purpose (c :: read) .plain) := by
    simp [next?, step, stepText, hquote, hescape, Nat.not_lt.2 hcontrol, Except.toOption]
  rw [after?_cons, hnext, Option.bind_some]

theorem escaped?_of_mem {letter c : Char} (h : (letter, c) ∈ escapes) :
    letter ≠ 'u' ∧ escaped? letter = some c := by
  have htable : ∀ e ∈ escapes, e.1 ≠ 'u' ∧ escaped? e.1 = some e.2 := by decide
  exact htable _ h

theorem after?_escape {letter c : Char} (h : (letter, c) ∈ escapes) :
    after? (.text purpose read .plain) ('\\' :: letter :: rest) =
      after? (.text purpose (c :: read) .plain) rest := by
  obtain ⟨hu, hc⟩ := escaped?_of_mem h
  have hnext : next? (.text purpose read .escape) letter =
      some (.text purpose (c :: read) .plain) := by
    simp [next?, step, stepText, hu, hc, Except.toOption]
  rw [after?_cons, show next? _ '\\' = some (.text purpose read .escape) from rfl,
    Option.bind_some, after?_cons, hnext, Option.bind_some]

theorem hexValue?_of_mem {c : Char} {i : Nat} (h : (c, i) ∈ hexDigits) :
    Syntax.Lexer.hexValue? c = some i ∧ c.utf8Size = 1 ∧ i < 16 := by
  have htable : ∀ d ∈ hexDigits,
      Syntax.Lexer.hexValue? d.1 = some d.2 ∧ d.1.utf8Size = 1 ∧ d.2 < 16 := by decide
  exact htable _ h

/-- The four digits of a code, whatever stands before them. -/
theorem after?_digits (lead? : Option Nat) {a b c d : Char} {i j k l : Nat}
    (ha : (a, i) ∈ hexDigits) (hb : (b, j) ∈ hexDigits) (hc : (c, k) ∈ hexDigits)
    (hd : (d, l) ∈ hexDigits) :
    after? (.text purpose read (.code lead? 0 0 true)) (a :: b :: c :: d :: rest) =
      (endCode purpose read lead? (0x1000 * i + 0x100 * j + 0x10 * k + l)).toOption.bind
        (after? · rest) := by
  have hdigit {bytes value : Nat} {x : Char} {n : Nat} (hx : (x, n) ∈ hexDigits)
      (hbytes : bytes + 1 < 4) : next? (.text purpose read (.code lead? bytes value true)) x =
        some (.text purpose read (.code lead? (bytes + 1) (value * 16 + n) true)) := by
    obtain ⟨hvalue, hsize, -⟩ := hexValue?_of_mem hx
    simp [next?, step, stepText, hvalue, hsize, hbytes, Except.toOption]
  have hlast (value : Nat) : next? (.text purpose read (.code lead? 3 value true)) d =
      (endCode purpose read lead? (value * 16 + l)).toOption := by
    obtain ⟨hvalue, hsize, -⟩ := hexValue?_of_mem hd
    simp [next?, step, stepText, hvalue, hsize]
  rw [after?_cons, hdigit ha (by decide), Option.bind_some, after?_cons, hdigit hb (by decide),
    Option.bind_some, after?_cons, hdigit hc (by decide), Option.bind_some, after?_cons, hlast,
    show (((0 * 16 + i) * 16 + j) * 16 + k) * 16 + l = 0x1000 * i + 0x100 * j + 0x10 * k + l by
      omega]

end Strings

/-- The code that four digits write is that of its code unit. -/
theorem toNat_toUInt16 {a b c d : Char} {i j k l : Nat} (ha : (a, i) ∈ hexDigits)
    (hb : (b, j) ∈ hexDigits) (hc : (c, k) ∈ hexDigits) (hd : (d, l) ∈ hexDigits) :
    (0x1000 * i + 0x100 * j + 0x10 * k + l).toUInt16.toNat =
      0x1000 * i + 0x100 * j + 0x10 * k + l := by
  have hi := (hexValue?_of_mem ha).2.2
  have hj := (hexValue?_of_mem hb).2.2
  have hk := (hexValue?_of_mem hc).2.2
  have hl := (hexValue?_of_mem hd).2.2
  simp only [UInt16.toNat_ofNat']
  omega

theorem isTrail_toNat (u : UInt16) : isTrail u.toNat = Utf16.isLow u := by
  rw [Bool.eq_iff_iff, Utf16.isLow_iff, isTrail]
  simp only [Bool.and_eq_true, decide_eq_true_eq]
  omega

theorem isLead_toNat (u : UInt16) : isLead u.toNat = Utf16.isHigh u := by
  rw [Bool.eq_iff_iff, Utf16.isHigh_iff, isLead]
  simp only [Bool.and_eq_true, decide_eq_true_eq]
  omega

/-- What a string gives that must stand for a text: the state behind the text, if its code units
stand for one. -/
def units? (purpose : Purpose) (read : List Char) (units : List UInt16) : Option State :=
  (Utf16.decode? units).bind fun cs => text? purpose (read.reverse ++ cs)

/-- The first character of a string is read before the others. -/
theorem units?_eq_of_decode? {units rest : List UInt16} {c : Char}
    (h : Utf16.decode? units = (Utf16.decode? rest).map (c :: ·)) (purpose : Purpose)
    (read : List Char) : units? purpose read units = units? purpose (c :: read) rest := by
  rw [units?, units?, h, Option.bind_map]
  congr 1
  funext cs
  rw [List.reverse_cons, List.append_assoc]
  rfl

theorem units?_eq_none {units : List UInt16} (h : Utf16.decode? units = none) (purpose : Purpose)
    (read : List Char) : units? purpose read units = none := by
  rw [units?, h]
  rfl

theorem after?_lead_eq_none {c : Char} (hc : c ≠ '\\') (purpose : Purpose) (read rest : List Char)
    (lead : Nat) : after? (.text purpose read (.lead lead)) (c :: rest) = none := by
  have hnext : next? (.text purpose read (.lead lead)) c = none := by
    simp [next?, step, stepText, hc, behind, Except.toOption]
  rw [after?_cons, hnext, Option.bind_none]

theorem after?_leadEscape_eq_none {c : Char} (hc : c ≠ 'u') (purpose : Purpose)
    (read rest : List Char) (lead : Nat) :
    after? (.text purpose read (.leadEscape lead)) (c :: rest) = none := by
  have hnext : next? (.text purpose read (.leadEscape lead)) c = none := by
    simp [next?, step, stepText, hc, behind, Except.toOption]
  rw [after?_cons, hnext, Option.bind_none]

/-- The outcome of a code behind no leading surrogate. -/
theorem endCode_none {purpose : Purpose} (hpurpose : purpose.isSkipped = false) (read : List Char)
    (u : UInt16) :
    endCode purpose read none u.toNat =
      if Utf16.isLow u then behind .loneSurrogate
      else if Utf16.isHigh u then .ok (.text purpose read (.lead u.toNat))
      else .ok (.text purpose (Char.ofNat u.toNat :: read) .plain) := by
  simp only [endCode, hpurpose, isTrail_toNat, isLead_toNat, Bool.false_eq_true, if_false]

/-- The outcome of a code behind a leading surrogate. -/
theorem endCode_some {purpose : Purpose} (hpurpose : purpose.isSkipped = false) (read : List Char)
    (u v : UInt16) :
    endCode purpose read (some u.toNat) v.toNat =
      if Utf16.isLow v then .ok (.text purpose (Char.ofNat (Utf16.pairValue u v) :: read) .plain)
      else behind .loneSurrogate := by
  have hpair : (u.toNat - 0xD800) * 0x400 + (v.toNat - 0xDC00) + 0x10000 =
      Utf16.pairValue u v := by
    unfold Utf16.pairValue
    omega
  simp only [endCode, hpurpose, isTrail_toNat, hpair, Bool.false_eq_true, if_false]

/-- Inside a string that must stand for a text, also behind the first half `u` of a pair. -/
theorem after?_units {purpose : Purpose} (hpurpose : purpose.isSkipped = false)
    {units : List UInt16} {inner : List Char} (h : SpellsUnits units inner)
    (read rest : List Char) :
    after? (.text purpose read .plain) (inner ++ '\x22' :: rest) =
        (units? purpose read units).bind (after? · rest) ∧
      ∀ u, Utf16.isHigh u → after? (.text purpose read (.lead u.toNat)) (inner ++ '\x22' :: rest) =
        (units? purpose read (u :: units)).bind (after? · rest) := by
  -- A code may open a pair, and only what follows tells whether it is whole: the two statements
  -- need each other.
  induction h generalizing read with
  | nil =>
    refine ⟨?_, fun u hu => ?_⟩
    · rw [List.nil_append, after?_quote, units?, Utf16.decode?, Option.bind_some, List.append_nil]
    · rw [units?_eq_none (Utf16.decode?_cons_eq_none hu fun v hv => by cases hv)]
      exact after?_lead_eq_none (by decide) _ _ _ _
  | @plain c units cs hquote hescape hcontrol _ ih =>
    refine ⟨?_, fun u hu => ?_⟩
    · rw [List.cons_append, after?_plain _ _ _ hquote hescape hcontrol, (ih _).1,
        units?_eq_of_decode? (Utf16.decode?_unitsOf_append c units)]
    · rw [units?_eq_none (Utf16.decode?_cons_eq_none hu fun v => Utf16.isLow_of_head?_unitsOf)]
      exact after?_lead_eq_none hescape _ _ _ _
  | @escape letter c units cs hletter _ ih =>
    refine ⟨?_, fun u hu => ?_⟩
    · rw [List.cons_append, List.cons_append, after?_escape _ _ _ hletter, (ih _).1,
        units?_eq_of_decode? (Utf16.decode?_unitsOf_append c units)]
    · rw [units?_eq_none (Utf16.decode?_cons_eq_none hu fun v => Utf16.isLow_of_head?_unitsOf)]
      exact after?_leadEscape_eq_none (escaped?_of_mem hletter).1 _ _ _ _
  | @code a b c d i j k l units cs ha hb hc hd _ ih =>
    have hcode := toNat_toUInt16 ha hb hc hd
    generalize (0x1000 * i + 0x100 * j + 0x10 * k + l).toUInt16 = v at hcode ⊢
    have hdigits (lead? : Option Nat) := after?_digits purpose read (cs ++ '\x22' :: rest) lead?
      ha hb hc hd
    rw [← hcode] at hdigits
    refine ⟨(hdigits none).trans ?_, fun u hu => (hdigits (some u.toNat)).trans ?_⟩
    · rw [endCode_none hpurpose]
      split
      · next hlow =>
        rw [units?_eq_none (Utf16.decode?_cons_of_isLow hlow units)]
        rfl
      · next hlow =>
        split
        · next hhigh => exact (ih read).2 v hhigh
        · next hhigh =>
          rw [units?_eq_of_decode? (Utf16.decode?_cons_of_not_surrogate (by simpa using hhigh)
            (by simpa using hlow) units)]
          exact (ih _).1
    · rw [endCode_some hpurpose]
      split
      · next hlow =>
        rw [units?_eq_of_decode? (Utf16.decode?_cons_of_isHigh hu hlow units)]
        exact (ih _).1
      · next hlow =>
        rw [units?_eq_none (Utf16.decode?_cons_eq_none hu fun w hw => by
          cases Option.some.inj hw
          simpa using hlow)]
        rfl

/-- A string that must stand for a text. -/
theorem after?_string {purpose : Purpose} (hpurpose : purpose.isSkipped = false)
    {units : List UInt16} {inner : List Char} (h : SpellsUnits units inner) (rest : List Char) :
    after? (.text purpose [] .plain) (inner ++ '\x22' :: rest) =
      ((Utf16.decode? units).bind (text? purpose)).bind (after? · rest) :=
  (after?_units hpurpose h [] rest).1

end ProseLint.Options
