import Mathlib.Computability.RegularExpressions
import ProseLint.English
import ProseLint.Proofs.Text.Utf16

/-!
# English text in code units

The rule is meant for the values of scripts, which are code units: the expression
`^[A-Z][a-z]+\s` is matched on the units, where half of a surrogate pair is a unit like any other.
It is applied to text, in which pairs have become one character and other surrogates U+FFFD. The
units of the expression's classes are no surrogates and read as themselves, and what a surrogate
reads as is in none of the classes. So the text looks English exactly if the units match
(`looksEnglish_decodeLossy_iff`).
-/

namespace ProseLint.English

open ProseLint.Text.Utf16

/-! ## The expression -/

/-- Some units that follow each other. -/
def unitsFrom (first count : Nat) : List UInt16 := (List.range' first count).map Nat.toUInt16

/-- The units from `A` to `Z`. -/
def capitals : List UInt16 := unitsFrom 0x41 26

/-- The units from `a` to `z`. -/
def smalls : List UInt16 := unitsFrom 0x61 26

/-- The units of white space: tabs and line feeds, the blanks of Unicode, the two separators of
lines and paragraphs, and the byte order mark. -/
def spaces : List UInt16 :=
  [0x9, 0xA, 0xB, 0xC, 0xD, 0x20, 0xA0, 0x1680] ++ unitsFrom 0x2000 11 ++
  [0x2028, 0x2029, 0x202F, 0x205F, 0x3000, 0xFEFF]

/-- One unit of a class. -/
def oneOf (units : List UInt16) : RegularExpression UInt16 := (units.map .char).sum

/-- A capital letter, small letters and white space. -/
def sentenceStart : RegularExpression UInt16 :=
  oneOf capitals * (oneOf smalls * (oneOf smalls).star) * oneOf spaces

/-- The units begin as the expression says, and go on in any way. -/
def BeginsSentence (units : List UInt16) : Prop :=
  ∃ start rest, units = start ++ rest ∧ start ∈ sentenceStart.matches'

theorem mem_oneOf {units word : List UInt16} :
    word ∈ (oneOf units).matches' ↔ ∃ u ∈ units, word = [u] := by
  unfold oneOf
  induction units with
  | nil => simp [RegularExpression.matches'_zero]
  | cons u units ih =>
    rw [List.map_cons, List.sum_cons, RegularExpression.matches'_add, Language.mem_add, ih,
      RegularExpression.matches'_char, List.exists_mem_cons_iff]
    rfl

theorem mem_star_oneOf {units word : List UInt16} :
    word ∈ (oneOf units).star.matches' ↔ ∀ u ∈ word, u ∈ units := by
  rw [RegularExpression.matches'_star, Language.mem_kstar]
  constructor
  · rintro ⟨words, rfl, hwords⟩ u hu
    obtain ⟨word, hword, hu⟩ := List.mem_flatten.1 hu
    obtain ⟨v, hv, rfl⟩ := mem_oneOf.1 (hwords word hword)
    rwa [List.mem_singleton.1 hu]
  · intro h
    refine ⟨word.map ([·]), by simp [← List.flatMap_def], ?_⟩
    intro w hw
    obtain ⟨u, hu, rfl⟩ := List.mem_map.1 hw
    exact mem_oneOf.2 ⟨u, h u hu, rfl⟩

/-- Small letters, at least one if none has been read, and white space. -/
def EndsWord (begun : Bool) (units : List UInt16) : Prop :=
  ∃ small space rest, units = small ++ space :: rest ∧ (begun ∨ small ≠ []) ∧
    (∀ u ∈ small, u ∈ smalls) ∧ space ∈ spaces

theorem beginsSentence_iff {units : List UInt16} :
    BeginsSentence units ↔
      ∃ capital rest, units = capital :: rest ∧ capital ∈ capitals ∧ EndsWord false rest := by
  constructor
  · rintro ⟨start, rest, rfl, hstart⟩
    simp only [sentenceStart, RegularExpression.matches'_mul, Language.mem_mul] at hstart
    obtain ⟨-, ⟨a, ha, -, ⟨b, hb, more, hmore, rfl⟩, rfl⟩, c, hc, rfl⟩ := hstart
    obtain ⟨capital, hcapital, rfl⟩ := mem_oneOf.1 ha
    obtain ⟨first, hfirst, rfl⟩ := mem_oneOf.1 hb
    obtain ⟨space, hspace, rfl⟩ := mem_oneOf.1 hc
    rw [mem_star_oneOf] at hmore
    refine ⟨capital, first :: (more ++ space :: rest), by simp, hcapital, ?_⟩
    exact ⟨first :: more, space, rest, rfl, .inr (List.cons_ne_nil first more),
      List.forall_mem_cons.2 ⟨hfirst, hmore⟩, hspace⟩
  · rintro ⟨capital, -, rfl, hcapital, small, space, rest, rfl, hbegun, hsmall, hspace⟩
    obtain ⟨first, more, rfl⟩ := List.exists_cons_of_ne_nil (hbegun.resolve_left Bool.false_ne_true)
    rw [List.forall_mem_cons] at hsmall
    refine ⟨[capital] ++ ([first] ++ more) ++ [space], rest, by simp, ?_⟩
    simp only [sentenceStart, RegularExpression.matches'_mul, Language.mem_mul]
    have hword : first :: more ∈ (oneOf smalls).matches' * (oneOf smalls).star.matches' :=
      Language.mem_mul.2 ⟨[first], mem_oneOf.2 ⟨first, hsmall.1, rfl⟩, more,
        mem_star_oneOf.2 hsmall.2, rfl⟩
    exact ⟨_, ⟨_, mem_oneOf.2 ⟨capital, hcapital, rfl⟩, _, Language.mem_mul.1 hword, rfl⟩, _,
      mem_oneOf.2 ⟨space, hspace, rfl⟩, rfl⟩

/-! ## Classes of characters and of units -/

/-- The character has the code of one of the units. -/
def IsOf (units : List UInt16) (c : Char) : Prop := c.toNat ∈ units.map UInt16.toNat

theorem mem_iff_toNat_mem {units : List UInt16} {u : UInt16} :
    u ∈ units ↔ u.toNat ∈ units.map UInt16.toNat :=
  (List.mem_map_of_injective fun _ _ h => UInt16.toNat_inj.1 h).symm

theorem map_toNat_unitsFrom {first count : Nat} (h : first + count ≤ 0x10000) :
    (unitsFrom first count).map UInt16.toNat = List.range' first count := by
  rw [unitsFrom, List.map_map]
  have hcode : ∀ n ∈ List.range' first count, (UInt16.toNat ∘ Nat.toUInt16) n = n := by
    intro n hn
    have hlt := (List.mem_range'_1.1 hn).2
    rw [Function.comp_apply, UInt16.toNat_ofNat']
    omega
  exact (List.map_congr_left hcode).trans (List.map_id' _)

theorem mem_unitsFrom {first count : Nat} (h : first + count ≤ 0x10000) {u : UInt16} :
    u ∈ unitsFrom first count ↔ first ≤ u.toNat ∧ u.toNat < first + count := by
  rw [mem_iff_toNat_mem, map_toNat_unitsFrom h, List.mem_range'_1]

theorem mem_capitals {u : UInt16} : u ∈ capitals ↔ 0x41 ≤ u ∧ u ≤ 0x5A := by
  rw [capitals, mem_unitsFrom (by decide), UInt16.le_iff_toNat_le, UInt16.le_iff_toNat_le]
  exact and_congr_right fun _ => Nat.lt_succ_iff

theorem mem_smalls {u : UInt16} : u ∈ smalls ↔ 0x61 ≤ u ∧ u ≤ 0x7A := by
  rw [smalls, mem_unitsFrom (by decide), UInt16.le_iff_toNat_le, UInt16.le_iff_toNat_le]
  exact and_congr_right fun _ => Nat.lt_succ_iff

theorem isUpper_iff {c : Char} : c.isUpper ↔ IsOf capitals c := by
  rw [IsOf, capitals, map_toNat_unitsFrom (by decide), List.mem_range'_1]
  exact decide_eq_true_iff.trans (and_congr_right fun _ => Nat.lt_succ_iff.symm)

theorem isLower_iff {c : Char} : c.isLower ↔ IsOf smalls c := by
  rw [IsOf, smalls, map_toNat_unitsFrom (by decide), List.mem_range'_1]
  exact (Bool.and_eq_true_iff.trans (and_congr decide_eq_true_iff decide_eq_true_iff)).trans
    (and_congr_right fun _ => Nat.lt_succ_iff.symm)

theorem isSpace_iff {c : Char} : isSpace c ↔ IsOf spaces c := by
  have hrange : ('\u2000' ≤ c ∧ c ≤ '\u200a') ↔ c.toNat ∈ List.range' 0x2000 11 := by
    rw [List.mem_range'_1]
    exact and_congr_right fun _ => Nat.lt_succ_iff.symm
  rw [IsOf, spaces, List.map_append, List.map_append, map_toNat_unitsFrom (by decide),
    List.mem_append, List.mem_append, ← hrange]
  simp [isSpace, ← Char.toNat_inj, or_assoc]

/-- No unit of the class is a surrogate or comes behind what surrogates are read as. -/
def IsOrdinary (units : List UInt16) : Prop :=
  ∀ u ∈ units, isHigh u = false ∧ isLow u = false ∧ u < 0xFFFD

instance (units : List UInt16) : Decidable (IsOrdinary units) := List.decidableBAll _ units

theorem isOrdinary_capitals : IsOrdinary capitals := by decide

theorem isOrdinary_smalls : IsOrdinary smalls := by decide

theorem isOrdinary_spaces : IsOrdinary spaces := by decide

theorem IsOrdinary.not_surrogate {units : List UInt16} (h : IsOrdinary units) {u : UInt16}
    (hu : u ∈ units) : ¬ (isHigh u || isLow u) := by
  obtain ⟨hhigh, hlow, -⟩ := h u hu
  rw [hhigh, hlow]
  exact Bool.false_ne_true

theorem isOf_iff_mem {u : UInt16} {c : Char} {units : List UInt16} (hclass : IsOrdinary units)
    (h : c.toNat = u.toNat ∨ (isHigh u || isLow u) = true ∧ 0xFFFD ≤ c.toNat) :
    IsOf units c ↔ u ∈ units := by
  rcases h with hcode | ⟨hsurrogate, hcode⟩
  · rw [IsOf, hcode, mem_iff_toNat_mem]
  · constructor
    · intro hc
      obtain ⟨v, hv, hvc⟩ := List.mem_map.1 hc
      have hlt : v.toNat < 0xFFFD := UInt16.lt_iff_toNat_lt.1 (hclass v hv).2.2
      omega
    · intro hu
      exact absurd hsurrogate (hclass.not_surrogate hu)

/-! ## Text and units -/

/-- A small letter goes on with the word; anything else must be the white space behind it. -/
theorem endsWord_cons_iff {begun : Bool} {u : UInt16} {units : List UInt16} :
    EndsWord begun (u :: units) ↔
      if u ∈ smalls then EndsWord true units else begun ∧ u ∈ spaces := by
  have hdisjoint : spaces.all (· ∉ smalls) := by decide
  by_cases hu : u ∈ smalls
  · rw [if_pos hu]
    constructor
    · rintro ⟨small, space, rest, heq, -, hsmall, hspace⟩
      cases small with
      | nil =>
        obtain ⟨rfl, -⟩ := List.cons.inj heq
        exact absurd hu (of_decide_eq_true (List.all_eq_true.1 hdisjoint u hspace))
      | cons v small =>
        obtain ⟨rfl, rfl⟩ := List.cons.inj heq
        exact ⟨small, space, rest, rfl, .inl rfl, (List.forall_mem_cons.1 hsmall).2, hspace⟩
    · rintro ⟨small, space, rest, rfl, -, hsmall, hspace⟩
      exact ⟨u :: small, space, rest, rfl, .inr (List.cons_ne_nil u small),
        List.forall_mem_cons.2 ⟨hu, hsmall⟩, hspace⟩
  · rw [if_neg hu]
    constructor
    · rintro ⟨small, space, rest, heq, hbegun, hsmall, hspace⟩
      cases small with
      | nil =>
        obtain ⟨rfl, -⟩ := List.cons.inj heq
        exact ⟨hbegun.resolve_right (· rfl), hspace⟩
      | cons v small =>
        obtain ⟨rfl, -⟩ := List.cons.inj heq
        exact absurd (List.forall_mem_cons.1 hsmall).1 hu
    · rintro ⟨hbegun, hspace⟩
      exact ⟨[], u, units, rfl, .inl hbegun, List.forall_mem_nil _, hspace⟩

theorem endsWord_decodeLossy_iff (begun : Bool) (units : List UInt16) :
    endsWord begun (decodeLossy units) ↔ EndsWord begun units := by
  induction units generalizing begun with
  | nil => simp [decodeLossy, endsWord, EndsWord]
  | cons u units ih =>
    obtain ⟨c, cs, hread, hhead⟩ := exists_decodeLossy_cons u units
    have hcode := hhead.imp_left And.left
    have hsmall : c.isLower ↔ u ∈ smalls :=
      isLower_iff.trans (isOf_iff_mem isOrdinary_smalls hcode)
    have hspace : isSpace c ↔ u ∈ spaces :=
      isSpace_iff.trans (isOf_iff_mem isOrdinary_spaces hcode)
    rw [hread, endsWord, endsWord_cons_iff]
    by_cases hu : u ∈ smalls
    · -- no surrogate, so it did not take the next unit with it
      obtain ⟨-, rfl⟩ := hhead.resolve_right fun h => isOrdinary_smalls.not_surrogate hu h.1
      rw [if_pos hu, if_pos (hsmall.2 hu), ih]
    · rw [if_neg hu, if_neg (mt hsmall.1 hu), Bool.and_eq_true, hspace]

theorem looksEnglishChars_decodeLossy_iff (units : List UInt16) :
    looksEnglishChars (decodeLossy units) ↔ BeginsSentence units := by
  rw [beginsSentence_iff]
  cases units with
  | nil => simp [decodeLossy, looksEnglishChars]
  | cons u units =>
    obtain ⟨c, cs, hread, hhead⟩ := exists_decodeLossy_cons u units
    have hcapital : c.isUpper ↔ u ∈ capitals :=
      isUpper_iff.trans (isOf_iff_mem isOrdinary_capitals (hhead.imp_left And.left))
    rw [hread, looksEnglishChars, Bool.and_eq_true, hcapital]
    constructor
    · rintro ⟨hu, hword⟩
      obtain ⟨-, rfl⟩ := hhead.resolve_right fun h => isOrdinary_capitals.not_surrogate hu h.1
      exact ⟨u, units, rfl, hu, (endsWord_decodeLossy_iff false units).1 hword⟩
    · rintro ⟨capital, rest, heq, hu, hword⟩
      obtain ⟨rfl, rfl⟩ := List.cons.inj heq
      obtain ⟨-, rfl⟩ := hhead.resolve_right fun h => isOrdinary_capitals.not_surrogate hu h.1
      exact ⟨hu, (endsWord_decodeLossy_iff false units).2 hword⟩

/-- For every sequence of code units: its text looks English exactly if the units match the
expression, which is that they are a capital letter, at least one small letter, white space, and
anything. -/
theorem looksEnglish_decodeLossy_iff (units : List UInt16) :
    (looksEnglish (String.ofList (decodeLossy units)) ↔ BeginsSentence units) ∧
    (BeginsSentence units ↔ ∃ capital small space rest,
      units = capital :: (small ++ space :: rest) ∧ (0x41 ≤ capital ∧ capital ≤ 0x5A) ∧
      small ≠ [] ∧ (∀ u ∈ small, 0x61 ≤ u ∧ u ≤ 0x7A) ∧ space ∈ spaces) := by
  constructor
  · rw [looksEnglish, String.toList_ofList]
    exact looksEnglishChars_decodeLossy_iff units
  · simp only [← mem_capitals, ← mem_smalls]
    rw [beginsSentence_iff]
    constructor
    · rintro ⟨capital, -, rfl, hcapital, small, space, rest, rfl, hbegun, hsmall, hspace⟩
      exact ⟨capital, small, space, rest, rfl, hcapital, hbegun.resolve_left Bool.false_ne_true,
        hsmall, hspace⟩
    · rintro ⟨capital, small, space, rest, rfl, hcapital, hne, hsmall, hspace⟩
      exact ⟨capital, _, rfl, hcapital, small, space, rest, rfl, .inr hne, hsmall, hspace⟩

end ProseLint.English
