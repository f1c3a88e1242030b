import ProseLint.Syntax.Lexer

/-!
# The lexer keeps its place

A cursor counts bytes while the lexer looks at characters. `Cursor.Leads c d` says that the two
agree between `c` and `d`: some characters were passed, and the offset grew by their length in
bytes. Every reader of the lexer leads from where it starts to where it stops, so that a token's
offset is the length of the text before it (`leads_start_read`, `leads_stop_read`), and a token that
opens a literal stands at its delimiter (`isDelimiter_of_opensLiteral`).
-/

namespace ProseLint.Syntax

open ProseLint.Text (byteLength byteLength_append)

namespace Cursor

/-- The place `d` is reached from `c` by passing characters. -/
def Leads (c d : Cursor) : Prop :=
  ∃ passed, c.rest = passed ++ d.rest ∧ d.offset = c.offset + byteLength passed

namespace Leads

theorem refl (c : Cursor) : Leads c c := ⟨[], rfl, rfl⟩

theorem trans {a b c : Cursor} (h₁ : Leads a b) (h₂ : Leads b c) : Leads a c := by
  obtain ⟨p, hp, hb⟩ := h₁
  obtain ⟨q, hq, hc⟩ := h₂
  refine ⟨p ++ q, ?_, ?_⟩
  · rw [hp, hq, List.append_assoc]
  · rw [hc, hb, byteLength_append, Nat.add_assoc]

theorem offset_le {c d : Cursor} (h : Leads c d) : c.offset ≤ d.offset := by
  obtain ⟨passed, -, hoffset⟩ := h
  omega

/-- Passing one character first. -/
theorem cons {ch : Char} {cs : List Char} {offset : Nat} {d : Cursor}
    (h : Leads ⟨cs, offset + ch.utf8Size⟩ d) : Leads ⟨ch :: cs, offset⟩ d :=
  .trans ⟨[ch], rfl, by simp⟩ h

/-- Passing one character of a single byte first. -/
theorem consByte {ch : Char} {cs : List Char} {offset : Nat} {d : Cursor}
    (hch : ch.utf8Size = 1) (h : Leads ⟨cs, offset + 1⟩ d) : Leads ⟨ch :: cs, offset⟩ d :=
  .cons (by rwa [hch])

end Leads

theorem leads_skip (c : Cursor) (n : Nat) : Leads c (c.skip n) :=
  ⟨c.rest.take n, (List.take_append_drop n c.rest).symm, rfl⟩

theorem leads_takeWhile (p : Char → Bool) (c : Cursor) : Leads c (c.takeWhile p).2 :=
  ⟨c.rest.takeWhile p, List.takeWhile_append_dropWhile.symm, rfl⟩

theorem leads_dropWhile (p : Char → Bool) (c : Cursor) : Leads c (c.dropWhile p) :=
  leads_takeWhile p c

end Cursor

open Cursor (Leads leads_skip leads_takeWhile leads_dropWhile)

namespace Lexer

/-- The signs at which readers move on by one byte. -/
theorem utf8Size_signs : '\\'.utf8Size = 1 ∧ 'u'.utf8Size = 1 ∧ '\x7b'.utf8Size = 1 ∧
    '\x7d'.utf8Size = 1 ∧ '\n'.utf8Size = 1 ∧ '/'.utf8Size = 1 ∧ '\x60'.utf8Size = 1 := by
  decide

theorem utf8Size_of_hexValue? {c : Char} {d : Nat} (h : hexValue? c = some d) : c.utf8Size = 1 := by
  have hle : c ≤ 'f' := by
    unfold hexValue? at h
    simp only [Bool.and_eq_true, decide_eq_true_eq] at h
    split at h
    · next hc => exact Char.le_trans hc.2 (by decide)
    · split at h
      · next hc => exact hc.2
      · split at h
        · next hc => exact Char.le_trans hc.2 (by decide)
        · cases h
  exact Char.utf8Size_eq_one_iff.2 (UInt32.le_trans hle (by decide))

/-! ## Names and numbers -/

theorem leads_nameFrom {escaped : Bool} {state : NameState} {before cs : List Char} {offset : Nat}
    {n : Name} (h : nameFrom escaped state before cs offset = some n) :
    Leads ⟨cs, offset⟩ n.stop := by
  have hsigns := utf8Size_signs
  fun_induction nameFrom escaped state before cs offset generalizing n <;>
    grind [Leads.refl, Leads.cons, Leads.consByte, utf8Size_of_hexValue?]

theorem leads_name? {c : Cursor} {n : Name} (h : name? c = some n) : Leads c n.stop := by
  unfold name? at h
  split at h
  · next m hm =>
    split at h
    · cases h
    · cases h
      exact leads_nameFrom hm
  · cases h

theorem leads_bigMark (c : Cursor) : Leads c (bigMark c).stop := by
  unfold bigMark
  split
  · exact leads_skip c 1
  · exact .refl c

theorem leads_radixDigits? {base : Nat} {c : Cursor} {n : Number}
    (h : radixDigits? base c = some n) : Leads c n.stop := by
  unfold radixDigits? at h
  split at h
  · cases h
    exact (leads_dropWhile _ c).trans (leads_bigMark _)
  · cases h

theorem leads_exponent? {c d : Cursor} (h : exponent? c = some d) : Leads c d := by
  unfold exponent? at h
  split at h
  · simp only [Option.ite_none_right_eq_some, Option.some.injEq] at h
    obtain ⟨-, rfl⟩ := h
    refine .trans ?_ (leads_dropWhile _ _)
    split <;> exact leads_skip c _
  · cases h
    exact .refl c

theorem leads_fraction (c : Cursor) : Leads c (fraction c) := by
  unfold fraction
  split
  · exact (leads_skip c 1).trans (leads_dropWhile _ _)
  · exact .refl c

theorem leads_numberBody? {c : Cursor} {n : Number} (h : numberBody? c = some n) :
    Leads c n.stop := by
  unfold numberBody? at h
  split at h
  · exact (leads_skip c 2).trans (leads_radixDigits? h)
  · have hwhole := leads_takeWhile (isDigitOf 10) c
    simp only at h
    split at h
    · cases h
      exact hwhole
    · split at h
      · cases h
        exact hwhole.trans (leads_bigMark _)
      · obtain ⟨d, hd, rfl⟩ := Option.map_eq_some_iff.1 h
        exact (hwhole.trans (leads_fraction _)).trans (leads_exponent? hd)

theorem leads_number? {c : Cursor} {n : Number} (h : number? c = some n) : Leads c n.stop := by
  unfold number? at h
  split at h
  · next m hm =>
    split at h
    · cases h
    · cases h
      exact leads_numberBody? hm
  · cases h

/-! ## Quoted text -/

theorem leads_stringBodyFrom (quote : Char) (state : StringState) (inside cs : List Char)
    (offset : Nat) : Leads ⟨cs, offset⟩ (stringBodyFrom quote state inside cs offset).stop := by
  have hsigns := utf8Size_signs
  fun_induction stringBodyFrom quote state inside cs offset <;>
    grind [Leads.refl, Leads.cons, Leads.consByte]

theorem leads_chunkFrom? {escaped : Bool} {raw cs : List Char} {offset : Nat} {chunk : Chunk}
    (h : chunkFrom? escaped raw cs offset = some chunk) : Leads ⟨cs, offset⟩ chunk.stop := by
  have hsigns := utf8Size_signs
  fun_induction chunkFrom? escaped raw cs offset generalizing chunk with
  | case1 => cases h
  | case2 raw c cs offset ih => exact .cons (ih h)
  | case3 raw cs offset =>
    cases h
    exact ⟨['$', '\x7b'], rfl, rfl⟩
  | case4 => grind [Leads.refl, Leads.consByte]
  | case5 => grind [Leads.cons]

theorem leads_chunk? {c : Cursor} {chunk : Chunk} (h : chunk? c = some chunk) :
    Leads c chunk.stop :=
  leads_chunkFrom? h

theorem leads_regexStopFrom? {state : RegexState} {cs : List Char} {offset : Nat} {d : Cursor}
    (h : regexStopFrom? state cs offset = some d) : Leads ⟨cs, offset⟩ d := by
  have hsigns := utf8Size_signs
  fun_induction regexStopFrom? state cs offset generalizing d <;>
    grind [Leads.refl, Leads.cons, Leads.consByte]

theorem leads_regexStop? {c d : Cursor} (h : regexStop? c = some d) : Leads c d :=
  leads_regexStopFrom? h

/-! ## Blanks and comments -/

theorem leads_skipTriviaFrom {state : TriviaState} {newline : Bool} {cs : List Char} {offset : Nat}
    {s : Skipped} (h : skipTriviaFrom state newline cs offset = some s) :
    Leads ⟨cs, offset⟩ s.cursor := by
  fun_induction skipTriviaFrom state newline cs offset generalizing s with
  | case1 => cases h
  | case2 =>
    cases h
    exact .refl _
  | case3 newline c cs offset _ ih => exact .cons (ih h)
  | case4 newline c cs offset _ ih => exact .cons (ih h)
  | case5 newline cs offset ih => exact .trans ⟨['*', '/'], rfl, rfl⟩ (ih h)
  | case6 newline c cs offset _ ih => exact .cons (ih h)
  | case7 newline cs offset ih => exact .trans ⟨['/', '/'], rfl, rfl⟩ (ih h)
  | case8 newline cs offset ih => exact .trans ⟨['/', '*'], rfl, rfl⟩ (ih h)
  | case9 newline cs offset ih => exact .trans ⟨['<', '!', '-', '-'], rfl, rfl⟩ (ih h)
  | case10 newline c cs offset _ _ _ _ ih => exact .cons (ih h)
  | case11 newline c cs offset _ _ _ _ _ ih => exact .cons (ih h)
  | case12 newline c cs offset _ _ _ _ _ _ ih => exact .cons (ih h)
  | case13 =>
    cases h
    exact .refl _

theorem leads_skipTrivia {c : Cursor} {newline : Bool} {s : Skipped}
    (h : skipTrivia c newline = some s) : Leads c s.cursor :=
  leads_skipTriviaFrom h

/-! ## Tokens -/

theorem leads_sign? {c d : Cursor} {text : String} (h : sign? c = some (text, d)) : Leads c d := by
  unfold sign? at h
  split at h
  · simp only at h
    split at h
    · cases h
      exact leads_skip c 1
    · cases h
      exact leads_skip c _
  · cases h

theorem leads_tokenAt (c : Cursor) : Leads c (tokenAt c).2 := by
  have hbehind := leads_skip c 1
  unfold tokenAt
  split
  · exact .refl c
  · next d _ _ =>
    dsimp only
    split
    · -- a string: over its quote, its inside and, if it is closed, the other quote
      split
      · have hbody := hbehind.trans (leads_stringBodyFrom d .text [] _ _)
        split
        · exact hbody.trans (leads_skip _ 1)
        · exact hbody
      · exact hbehind
    · split
      · exact hbehind
      · split
        · split
          · next hn => exact leads_number? hn
          · exact hbehind
        · split
          · split
            · next hn => exact hbehind.trans (leads_name? hn)
            · exact hbehind
          · split
            · next hs => exact leads_sign? hs
            · split
              · next hn => exact leads_name? hn
              · exact hbehind

theorem leads_start_read (c : Cursor) (newline : Bool) : Leads c (read c newline).start := by
  unfold read
  split
  · next h => exact leads_skipTrivia h
  · exact .refl c

theorem leads_stop_read (c : Cursor) (newline : Bool) :
    Leads (read c newline).start (read c newline).stop := by
  unfold read
  split
  · exact leads_tokenAt _
  · exact .refl c

/-! ## Delimiters -/

/-- Does the character open a string literal or a template? -/
def isDelimiter (c : Char) : Bool := c == '\x22' || c == '\x27' || c == '\x60'

/-- Does the token open a string literal or a template? -/
def opensLiteral : TokenKind → Bool
  | .string _ | .backtick => true
  | _ => false

/-- Where a token opens a literal, a delimiter stands, and the token goes over it. -/
theorem isDelimiter_of_tokenAt {c : Cursor} (h : opensLiteral (tokenAt c).1) :
    (∃ d ds, c.rest = d :: ds ∧ isDelimiter d) ∧ Leads (c.skip 1) (tokenAt c).2 := by
  unfold tokenAt at h ⊢
  split at h
  · cases h
  · next d ds hrest =>
    dsimp only at h ⊢
    split at h
    · next hquote =>
      refine ⟨⟨d, ds, hrest, by simp only [isDelimiter, hquote, Bool.true_or]⟩, ?_⟩
      rw [if_pos hquote]
      have hbody : Leads (c.skip 1) (stringBody d (c.skip 1)).stop := leads_stringBodyFrom ..
      split
      · split
        · exact hbody.trans (leads_skip _ 1)
        · exact hbody
      · exact .refl _
    · next hquote =>
      rw [if_neg hquote]
      split at h
      · next hbacktick =>
        refine ⟨⟨d, ds, hrest, by simp only [isDelimiter, hbacktick, Bool.or_true]⟩, ?_⟩
        rw [if_pos hbacktick]
        exact .refl _
      · -- no other token opens a literal
        split at h
        · split at h
          · split at h <;> cases h
          · cases h
        · split at h
          · split at h <;> cases h
          · split at h
            · cases h
            · split at h <;> cases h

/-- A token that opens a literal begins with a delimiter, which stands at the offset of the token
and is passed with it. -/
theorem isDelimiter_of_opensLiteral {c : Cursor} {newline : Bool}
    (h : opensLiteral (read c newline).token.kind) :
    (read c newline).token.span.lo = (read c newline).start.offset ∧
      (read c newline).start.offset < (read c newline).stop.offset ∧
      ∃ d ds, (read c newline).start.rest = d :: ds ∧ isDelimiter d := by
  unfold read at h ⊢
  split at h
  · next start _ _ =>
    obtain ⟨⟨d, ds, hrest, hd⟩, hbehind⟩ := isDelimiter_of_tokenAt h
    refine ⟨rfl, ?_, d, ds, hrest, hd⟩
    have hskip : (start.skip 1).offset = start.offset + d.utf8Size := by
      simp [Cursor.skip, hrest]
    have hpos := d.utf8Size_pos
    have hle : (start.skip 1).offset ≤ (tokenAt start).2.offset := hbehind.offset_le
    show start.offset < (tokenAt start).2.offset
    omega
  · cases h

end Lexer

end ProseLint.Syntax
