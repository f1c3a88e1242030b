import Mathlib.Data.List.Basic
import ProseLint.Location
import ProseLint.Proofs.Text.Width
import ProseLint.Text.Span

/-!
# What stands before a place on its line

Locating an offset goes over the characters before it, and starts a new line behind each that ends
one. `Location.ofOffset_spec` says what is left at the end: the characters between the start of the
line and the offset, which are the first of the line that is shown, and whose columns are added up.
This is what a search in a table of the starts of all lines finds (`Location.lineStarts`): the last
start up to the offset, and as many lines as there are starts up to it.

No character takes back a line or a column, so what stands further on in the text has a later place,
if only the character at the first place has a width (`Location.before_ofOffset`).
-/

namespace ProseLint.Location

open ProseLint.Text

/-- The columns that characters take in a source line. -/
def columnsOfAll (cs : List Char) : Nat := cs.foldr (fun c n => columnsOf c + n) 0

@[simp] theorem columnsOfAll_nil : columnsOfAll [] = 0 := rfl

@[simp] theorem columnsOfAll_cons (c : Char) (cs : List Char) :
    columnsOfAll (c :: cs) = columnsOf c + columnsOfAll cs := rfl

theorem columnsOfAll_append (cs ds : List Char) :
    columnsOfAll (cs ++ ds) = columnsOfAll cs + columnsOfAll ds := by
  induction cs with
  | nil => simp
  | cons c cs ih => simp [ih, Nat.add_assoc]

theorem columnsOf_of_isPlain {c : Char} (h : Width.IsPlain c) : columnsOf c = 1 := by
  obtain ⟨hcontrol, hcolumns, -⟩ := Width.columns_of_isPlain h
  have hhi := h.2
  have htab : c ≠ '\t' := by
    rintro rfl
    cases hcontrol
  have hplane : c.toNat ≤ 0xffff := by omega
  simp [columnsOf, Width.charColumns, htab, hplane, hcontrol, hcolumns]

theorem columnsOfAll_eq_length {cs : List Char} (h : ∀ c ∈ cs, columnsOf c = 1) :
    columnsOfAll cs = cs.length := by
  induction cs with
  | nil => rfl
  | cons c cs ih =>
    rw [List.forall_mem_cons] at h
    rw [columnsOfAll_cons, h.1, ih h.2, List.length_cons, Nat.add_comm]

theorem lineText_append {before : List Char} (h : '\n' ∉ before) (rest : List Char) :
    lineText (before ++ rest) = before ++ lineText rest := by
  refine List.takeWhile_append_of_pos fun c hc => ?_
  have : c ≠ '\n' := fun heq => h (heq ▸ hc)
  simpa using this

theorem lineText_cons {c : Char} (h : c ≠ '\n') (rest : List Char) :
    lineText (c :: rest) = c :: lineText rest :=
  List.takeWhile_cons_of_pos (by simpa using h)

theorem locateFrom_zero (line columns : Nat) (start rest : List Char) :
    locateFrom line columns start rest 0 = ⟨line, columns + 1, lineText start⟩ := by
  cases rest <;> rfl

theorem locateFrom_cons (line columns : Nat) (start : List Char) (c : Char) (cs : List Char)
    (ahead : Nat) :
    locateFrom line columns start (c :: cs) (c.utf8Size + ahead) =
      if endsLine c cs then locateFrom (line + 1) 0 cs cs ahead
      else locateFrom line (columns + columnsOf c) start cs ahead := by
  obtain ⟨n, hn⟩ : ∃ n, c.utf8Size + ahead = n + 1 :=
    ⟨c.utf8Size + ahead - 1, by have := c.utf8Size_pos; omega⟩
  rw [hn, locateFrom, Nat.succ_eq_add_one, ← hn, Nat.add_sub_cancel_left]

theorem line_locateFrom_le (line columns : Nat) (start rest : List Char) (ahead : Nat) :
    (locateFrom line columns start rest ahead).line ≤ line + rest.length := by
  induction rest generalizing line columns start ahead with
  | nil => exact Nat.le_refl _
  | cons c rest ih =>
    cases ahead with
    | zero => exact Nat.le_add_right _ _
    | succ ahead =>
      rw [locateFrom, List.length_cons]
      split
      · have := ih (line + 1) 0 rest (ahead.succ - c.utf8Size)
        omega
      · have := ih line (columns + columnsOf c) start (ahead.succ - c.utf8Size)
        omega

/-- A text has at most one line more than characters. -/
theorem line_ofOffset_le (text : List Char) (offset : Nat) :
    (ofOffset text offset).line ≤ text.length + 1 := by
  rw [Nat.add_comm]
  exact line_locateFrom_le 1 0 text text offset

/-! ## The table of lines -/

/-- The offsets of the characters that begin a line: the first, if `begins` says so, and those
behind the end of a line. -/
def lineStartsFrom (offset : Nat) (begins : Bool) : List Char → List Nat
  | [] => []
  | c :: cs =>
    let later := lineStartsFrom (offset + c.utf8Size) (endsLine c cs) cs
    if begins then offset :: later else later

/-- The offsets at which the lines of a text begin. -/
def lineStarts (text : List Char) : List Nat := lineStartsFrom 0 true text

theorem lineStartsFrom_cons (offset : Nat) (c : Char) (cs : List Char) :
    lineStartsFrom offset false (c :: cs) =
      lineStartsFrom (offset + c.utf8Size) (endsLine c cs) cs := rfl

theorem lineStartsFrom_true (offset : Nat) {cs : List Char} (h : cs ≠ []) :
    lineStartsFrom offset true cs = offset :: lineStartsFrom offset false cs := by
  cases cs with
  | nil => exact absurd rfl h
  | cons c cs => rfl

theorem le_of_mem_lineStartsFrom {offset s : Nat} {begins : Bool} {cs : List Char}
    (h : s ∈ lineStartsFrom offset begins cs) : offset ≤ s := by
  induction cs generalizing offset begins with
  | nil => cases h
  | cons c cs ih =>
    cases begins with
    | false =>
      have := ih h
      omega
    | true =>
      rcases List.mem_cons.1 h with rfl | h
      · exact Nat.le_refl _
      · have := ih h
        omega

theorem lt_of_mem_lineStartsFrom {offset s : Nat} {cs : List Char}
    (h : s ∈ lineStartsFrom offset false cs) : offset < s := by
  cases cs with
  | nil => cases h
  | cons c cs =>
    rw [lineStartsFrom_cons] at h
    have hle := le_of_mem_lineStartsFrom h
    have hpos := c.utf8Size_pos
    omega

theorem pairwise_lineStartsFrom (offset : Nat) (begins : Bool) (cs : List Char) :
    (lineStartsFrom offset begins cs).Pairwise (· < ·) := by
  induction cs generalizing offset begins with
  | nil => exact .nil
  | cons c cs ih =>
    have hlater := ih (offset + c.utf8Size) (endsLine c cs)
    cases begins with
    | false => exact hlater
    | true =>
      rw [lineStartsFrom_true offset (List.cons_ne_nil c cs), lineStartsFrom_cons]
      refine .cons (fun s hs => ?_) hlater
      exact Nat.lt_of_lt_of_le (Nat.lt_add_of_pos_right c.utf8Size_pos)
        (le_of_mem_lineStartsFrom hs)

/-- The invariant: `passed` is what was passed of the current line, which begins at `offset`, and
`behind` is still to be passed. On the way the lines of `starts` are begun, the last of them where
`before` begins, and all further lines begin behind the place. -/
theorem locateFrom_spec (line offset : Nat) (passed behind : List Char) (here : Char)
    (rest : List Char) (hpassed : '\n' ∉ passed) :
    ∃ above before starts later, passed ++ behind = above ++ before ∧ '\n' ∉ before ∧
      lineStartsFrom (offset + byteLength passed) false (behind ++ here :: rest) =
        starts ++ later ∧
      (offset :: starts).getLast? = some (offset + byteLength above) ∧
      (∀ s ∈ later, offset + byteLength (passed ++ behind) < s) ∧
      locateFrom line (columnsOfAll passed) (passed ++ (behind ++ here :: rest))
        (behind ++ here :: rest) (byteLength behind) =
          ⟨line + starts.length, columnsOfAll before + 1, lineText (before ++ here :: rest)⟩ := by
  induction behind generalizing line offset passed with
  | nil =>
    refine ⟨[], passed, [], lineStartsFrom (offset + byteLength passed) false (here :: rest),
      by simp, hpassed, rfl, rfl, ?_, ?_⟩
    · rw [List.append_nil]
      exact fun s hs => lt_of_mem_lineStartsFrom hs
    · rw [byteLength_nil, locateFrom_zero]
      rfl
  | cons c behind ih =>
    rw [byteLength_cons, List.cons_append, locateFrom_cons, lineStartsFrom_cons]
    by_cases hends : endsLine c (behind ++ here :: rest)
    · obtain ⟨above, before, starts, later, hsplit, hbefore, htable, hlast, hlater, hlocate⟩ :=
        ih (line + 1) (offset + byteLength passed + c.utf8Size) [] (by simp)
      rw [List.nil_append] at hsplit hlater
      refine ⟨passed ++ c :: above, before, (offset + byteLength passed + c.utf8Size) :: starts,
        later, ?_, hbefore, ?_, ?_, ?_, ?_⟩
      · rw [List.append_assoc, List.cons_append, ← hsplit]
      · rw [hends, lineStartsFrom_true _ (by simp), List.cons_append, ← htable]
        rfl
      · rw [List.getLast?_cons_cons, hlast, byteLength_append, byteLength_cons]
        simp only [Nat.add_assoc]
      · intro s hs
        have := hlater s hs
        rw [byteLength_append, byteLength_cons]
        omega
      · rw [if_pos hends, List.length_cons, Nat.add_comm starts.length, ← Nat.add_assoc]
        exact hlocate
    · have hc : '\n' ≠ c := by
        rintro rfl
        exact hends rfl
      obtain ⟨above, before, starts, later, hsplit, hbefore, htable, hlast, hlater, hlocate⟩ :=
        ih line offset (passed ++ [c]) (by simp [hpassed, hc])
      rw [List.append_assoc, List.singleton_append] at hsplit hlater
      refine ⟨above, before, starts, later, hsplit, hbefore, ?_, hlast, hlater, ?_⟩
      · rw [eq_false_of_ne_true hends, ← htable, byteLength_append]
        simp [Nat.add_assoc]
      · rw [if_neg hends, ← hlocate, columnsOfAll_append, List.append_assoc]
        simp

/-- Up to a place stand the starts before it, if all further starts lie behind it. -/
theorem takeWhile_lineStarts {text : List Char} {starts later : List Nat} {start place : Nat}
    (htable : lineStarts text = starts ++ later) (hlast : starts.getLast? = some start)
    (hstart : start ≤ place) (hlater : ∀ s ∈ later, place < s) :
    (lineStarts text).takeWhile (· ≤ place) = starts := by
  have hascending : (starts ++ later).Pairwise (· < ·) :=
    htable ▸ pairwise_lineStartsFrom 0 true text
  obtain ⟨earlier, rfl⟩ := List.getLast?_eq_some_iff.1 hlast
  have hle : ∀ s ∈ earlier ++ [start], s ≤ place := by
    intro s hs
    rcases List.mem_append.1 hs with hs | hs
    · have hlt : s < start := by
        have hstarts := (List.pairwise_append.1 hascending).1
        exact (List.pairwise_append.1 hstarts).2.2 s hs start (List.mem_singleton_self start)
      omega
    · rwa [List.mem_singleton.1 hs]
  rw [htable, List.takeWhile_append_of_pos fun s hs => decide_eq_true (hle s hs)]
  cases later with
  | nil => simp
  | cons s later =>
    have hlt : ¬ s ≤ place := Nat.not_le.2 (hlater s List.mem_cons_self)
    rw [List.takeWhile_cons_of_neg (by simpa using hlt), List.append_nil]

/-- The place of a character by the table of lines: its line is as far down as the table has starts
up to it, and the last of these starts is where the line begins that is shown, with the characters
whose columns are counted. -/
theorem ofOffset_spec (behind : List Char) (here : Char) (rest : List Char) :
    let text := behind ++ here :: rest
    let starts := (lineStarts text).takeWhile (· ≤ byteLength behind)
    ∃ above before, behind = above ++ before ∧ '\n' ∉ before ∧
      starts.getLast? = some (byteLength above) ∧
      ofOffset text (byteLength behind) =
        ⟨starts.length, columnsOfAll before + 1, before ++ lineText (here :: rest)⟩ := by
  intro text
  obtain ⟨above, before, starts, later, hsplit, hbefore, htable, hlast, hlater, hlocate⟩ :=
    locateFrom_spec 1 0 [] behind here rest (by simp)
  simp only [Nat.zero_add, byteLength_nil, List.nil_append] at hsplit htable hlast hlater hlocate
  have hstart : byteLength above ≤ byteLength behind := by
    rw [hsplit, byteLength_append]
    omega
  have hstarts : (lineStarts text).takeWhile (· ≤ byteLength behind) = 0 :: starts := by
    refine takeWhile_lineStarts ?_ hlast hstart hlater
    rw [lineStarts, lineStartsFrom_true 0 (by simp [text]), htable]
    rfl
  refine ⟨above, before, hsplit, hbefore, ?_, ?_⟩
  · rw [hstarts, hlast]
  · rw [hstarts, ← lineText_append hbefore, List.length_cons, Nat.add_comm]
    exact hlocate

/-! ## The order of places -/

/-- The first place is on an earlier line, or on the same line in an earlier column. -/
def Before (a b : Location) : Prop := a.line < b.line ∨ a.line = b.line ∧ a.col < b.col

instance (a b : Location) : Decidable (Before a b) := inferInstanceAs (Decidable (_ ∨ _))

/-- Passing characters leads to a later line or, on the same line, to no earlier column: whatever
their widths are, none is negative. -/
theorem exists_locateFrom_append (line columns : Nat) (start behind rest : List Char) :
    ∃ line' columns' start', (line < line' ∨ line = line' ∧ columns ≤ columns') ∧
      ∀ ahead, locateFrom line columns start (behind ++ rest) (byteLength behind + ahead) =
        locateFrom line' columns' start' rest ahead := by
  induction behind generalizing line columns start with
  | nil => exact ⟨line, columns, start, .inr ⟨rfl, Nat.le_refl _⟩, by simp⟩
  | cons c behind ih =>
    simp only [byteLength_cons, List.cons_append, Nat.add_assoc, locateFrom_cons]
    split
    · obtain ⟨line', columns', start', hlater, heq⟩ := ih (line + 1) 0 (behind ++ rest)
      exact ⟨line', columns', start', .inl (by omega), heq⟩
    · obtain ⟨line', columns', start', hlater, heq⟩ := ih line (columns + columnsOf c) start
      exact ⟨line', columns', start', by omega, heq⟩

/-- A character that takes columns of its line stands before all that follows it. -/
theorem before_ofOffset (behind : List Char) {c : Char} (between rest : List Char)
    (hcolumns : 0 < columnsOf c) (hline : ∀ cs, endsLine c cs = false) :
    let text := behind ++ c :: (between ++ rest)
    Before (ofOffset text (byteLength behind))
      (ofOffset text (byteLength (behind ++ c :: between))) := by
  intro text
  obtain ⟨line, columns, start, -, hpassed⟩ :=
    exists_locateFrom_append 1 0 text behind (c :: (between ++ rest))
  obtain ⟨line', columns', start', hlater, hbetween⟩ :=
    exists_locateFrom_append line (columns + columnsOf c) start between rest
  have hfirst : ofOffset text (byteLength behind) = ⟨line, columns + 1, lineText start⟩ :=
    (hpassed 0).trans (locateFrom_zero ..)
  have hsecond : ofOffset text (byteLength (behind ++ c :: between)) =
      ⟨line', columns' + 1, lineText start'⟩ := by
    rw [byteLength_append, byteLength_cons, ofOffset, hpassed, locateFrom_cons, hline,
      if_neg Bool.false_ne_true]
    exact (hbetween 0).trans (locateFrom_zero ..)
  rw [hfirst, hsecond]
  show line < line' ∨ line = line' ∧ columns + 1 < columns' + 1
  omega

end ProseLint.Location
