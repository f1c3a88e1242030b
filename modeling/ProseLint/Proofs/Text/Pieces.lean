import ProseLint.Text.Pieces

/-!
# Pieces and the text that they join to

Splitting a text at a separator and joining pieces with it undo each other: every text is joined
from its pieces, and pieces without the separator are the pieces of what they join to. The pieces
are those of `List.splitOn`, from which both facts are taken.
-/

namespace ProseLint.Text

theorem pieces_cons (separator c : Char) (cs : List Char) :
    pieces separator (c :: cs) =
      if c == separator then [] :: pieces separator cs
      else (pieces separator cs).modifyHead (c :: ·) := by
  rw [pieces]
  split
  · rfl
  · cases hpieces : pieces separator cs with
    | nil => exact absurd hpieces (pieces_ne_nil separator cs)
    | cons p ps => rfl

theorem length_pieces (separator : Char) (cs : List Char) :
    (pieces separator cs).length = cs.count separator + 1 := by
  induction cs with
  | nil => rfl
  | cons c cs ih =>
    rw [pieces_cons, List.count_cons]
    split
    · rw [List.length_cons, ih]
    · rw [List.length_modifyHead, ih, Nat.add_zero]

theorem pieces_eq_splitOn (separator : Char) (cs : List Char) :
    pieces separator cs = cs.splitOn separator := by
  induction cs with
  | nil => rfl
  | cons c cs ih =>
    rw [pieces_cons, ih, List.splitOn, List.splitOn, List.splitOnP_cons_eq_if_modifyHead]

theorem pieces_append {separator : Char} {part : List Char} (h : separator ∉ part)
    (cs : List Char) : pieces separator (part ++ separator :: cs) = part :: pieces separator cs := by
  induction part with
  | nil => rw [List.nil_append, pieces_cons, if_pos BEq.rfl]
  | cons c part ih =>
    rw [List.mem_cons, not_or] at h
    rw [List.cons_append, pieces_cons, if_neg (by simpa using Ne.symm h.1), ih h.2]
    rfl

/-! ## Strings -/

theorem stringPieces_append {separator : Char} {part : String} (h : separator ∉ part.toList)
    (text : String) :
    stringPieces separator (part ++ String.singleton separator ++ text) =
      part :: stringPieces separator text := by
  rw [stringPieces, String.toList_append, String.toList_append, String.toList_singleton,
    List.append_assoc, List.singleton_append, pieces_append h, List.map_cons, String.ofList_toList,
    stringPieces]

theorem map_toList_stringPieces (separator : Char) (text : String) :
    (stringPieces separator text).map String.toList = pieces separator text.toList := by
  simp [stringPieces, Function.comp_def]

/-- A text in which the separator occurs has at least two pieces. -/
theorem exists_stringPieces_eq {separator : Char} {text : String} (h : separator ∈ text.toList) :
    ∃ first second rest, stringPieces separator text = first :: second :: rest := by
  have hlength : (stringPieces separator text).length = text.toList.count separator + 1 := by
    rw [stringPieces, List.length_map, length_pieces]
  have hcount : 0 < text.toList.count separator := List.count_pos_iff.2 h
  match hpieces : stringPieces separator text with
  | first :: second :: rest => exact ⟨first, second, rest, rfl⟩
  | [] | [_] =>
    simp only [hpieces, List.length_cons, List.length_nil] at hlength
    omega

/-- A text is joined from its pieces. -/
theorem intercalate_stringPieces (separator : Char) (text : String) :
    (String.singleton separator).intercalate (stringPieces separator text) = text := by
  rw [← String.toList_inj, String.toList_intercalate, map_toList_stringPieces, pieces_eq_splitOn,
    String.toList_singleton, List.intercalate_splitOn]

/-- Parts without the separator are the pieces of the text that they join to. -/
theorem stringPieces_intercalate {separator : Char} {parts : List String}
    (h : ∀ part ∈ parts, separator ∉ part.toList) (hne : parts ≠ []) :
    stringPieces separator ((String.singleton separator).intercalate parts) = parts := by
  have hparts : ∀ cs ∈ parts.map String.toList, separator ∉ cs := by
    intro cs hcs
    obtain ⟨part, hpart, rfl⟩ := List.mem_map.1 hcs
    exact h part hpart
  rw [stringPieces, pieces_eq_splitOn, String.toList_intercalate, String.toList_singleton,
    List.splitOn_intercalate separator hparts (by simpa using hne)]
  simp [Function.comp_def]

end ProseLint.Text
