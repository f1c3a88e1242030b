import ProseLint.Proofs.Options.Members

/-!
# The options that an object gives

The text of an object gives options exactly if all its keys stand for texts, at most one of them is
`excludes`, and the value of that one is a list of texts (`ofText_object_iff`). A key may be written
with escapes, and one with half of a surrogate pair stands for no text: such an object is rejected
even where the key is unknown (`ofText_loneSurrogateKey`). In values of unknown members the same
escapes are passed over.
-/

namespace ProseLint.Options

open ProseLint.Json
open ProseLint.Text

/-! ## Members -/

theorem takeNamed?_eq_some_iff {progress p : Progress} {key : String} {v : Value} :
    takeNamed? progress key v = some p ↔
      if key = "excludes" then
        progress = none ∧ ∃ es : List String, v = .array (es.map Value.text) ∧ p = some es
      else p = progress := by
  unfold takeNamed?
  split
  · cases progress with
    | none =>
      simp only [Option.map_eq_some_iff, excludesOf?_eq_some_iff, true_and]
      exact exists_congr fun es => and_congr_right fun _ => eq_comm
    | some es => simp
  · rw [Option.some.injEq, eq_comm]

theorem take?_eq_some_iff {progress p : Progress} {m : Member} :
    take? progress m = some p ↔
      (∃ key : String, m.1 = Utf16.encode key.toList) ∧
        if m.1 = Utf16.encode "excludes".toList then
          progress = none ∧ ∃ es : List String, m.2 = .array (es.map Value.text) ∧ p = some es
        else p = progress := by
  simp only [take?, Option.bind_eq_some_iff, textOf?_eq_some_iff, takeNamed?_eq_some_iff,
    Value.text, Value.string.injEq]
  have hkey {key : String} (h : m.1 = Utf16.encode key.toList) :
      key = "excludes" ↔ m.1 = Utf16.encode "excludes".toList := by
    rw [h, Utf16.encode_injective.eq_iff, String.toList_inj]
  constructor
  · rintro ⟨key, h, htake⟩
    exact ⟨⟨key, h⟩, by simpa only [hkey h] using htake⟩
  · rintro ⟨⟨key, h⟩, htake⟩
    exact ⟨key, h, by simpa only [hkey h] using htake⟩

/-- The members one after another: at most one of them is `excludes`. -/
theorem foldlM_take?_eq_some_iff {members : List Member} {progress p : Progress} :
    members.foldlM take? progress = some p ↔
      HasTextKeys members ∧
        (named "excludes" members = [] ∧ p = progress ∨
          progress = none ∧ ∃ m, ∃ es : List String, named "excludes" members = [m] ∧
            m.2 = .array (es.map Value.text) ∧ p = some es) := by
  induction members generalizing progress with
  | nil => simp [HasTextKeys, named, eq_comm]
  | cons m members ih =>
    simp only [List.foldlM_cons, Option.bind_eq_bind, Option.bind_eq_some_iff, take?_eq_some_iff,
      ih, HasTextKeys, List.forall_mem_cons]
    by_cases hm : m.1 = Utf16.encode "excludes".toList
    · -- Behind this member the progress is no longer `none`, which leaves the first case of `ih`.
      simp only [if_pos hm, named_cons_of_eq hm]
      constructor
      · rintro ⟨q, ⟨hkey, rfl, es, hes, rfl⟩, hkeys, ⟨hnil, rfl⟩ | ⟨hnone, -⟩⟩
        · exact ⟨⟨hkey, hkeys⟩, .inr ⟨rfl, m, es, by rw [hnil], hes, rfl⟩⟩
        · cases hnone
      · rintro ⟨⟨hkey, hkeys⟩, ⟨hnil, -⟩ | ⟨rfl, m', es, hone, hes, rfl⟩⟩
        · cases hnil
        · obtain ⟨rfl, hnil⟩ := List.cons.inj hone
          exact ⟨some es, ⟨hkey, rfl, es, hes, rfl⟩, hkeys, .inl ⟨hnil, rfl⟩⟩
    · simp only [if_neg hm, named_cons_of_ne hm]
      constructor
      · rintro ⟨q, ⟨hkey, rfl⟩, hkeys, hrest⟩
        exact ⟨⟨hkey, hkeys⟩, hrest⟩
      · rintro ⟨⟨hkey, hkeys⟩, hrest⟩
        exact ⟨progress, ⟨hkey, rfl⟩, hkeys, hrest⟩

/-! ## Texts -/

theorem ofText_eq_ok_iff {members : List Member} {text : String}
    (h : Spells (.element (.object members)) text.toList) (o : Options) :
    ofText text = .ok o ↔
      HasTextKeys members ∧
        (named "excludes" members = [] ∧ o.excludes = [] ∨
          ∃ m, named "excludes" members = [m] ∧ m.2 = .array (o.excludes.map Value.text)) := by
  rw [← toOption_eq_some_iff, toOption_ofText h, Option.map_eq_some_iff]
  simp only [foldlM_take?_eq_some_iff]
  constructor
  · rintro ⟨p, ⟨hkeys, ⟨hnil, rfl⟩ | ⟨-, m, es, hone, hes, rfl⟩⟩, rfl⟩
    · exact ⟨hkeys, .inl ⟨hnil, rfl⟩⟩
    · exact ⟨hkeys, .inr ⟨m, hone, hes⟩⟩
  · rintro ⟨hkeys, ⟨hnil, hexcludes⟩ | ⟨m, hone, hes⟩⟩
    · exact ⟨none, ⟨hkeys, .inl ⟨hnil, rfl⟩⟩, by rw [← hexcludes]; rfl⟩
    · exact ⟨some o.excludes, ⟨hkeys, .inr ⟨trivial, m, o.excludes, hone, hes, rfl⟩⟩, rfl⟩

/-- The text of an object gives options exactly if its keys stand for texts, at most one of them is
`excludes` and the value of that one is a list of texts, which are then the excludes; the other
members have no influence on them. -/
theorem ofText_object_iff {members : List Member} {text : String}
    (h : Spells (.element (.object members)) text.toList) :
    ((∃ o, ofText text = .ok o) ↔
      HasTextKeys members ∧ (named "excludes" members).length ≤ 1 ∧
        ∀ m ∈ named "excludes" members, ∃ texts : List String,
          m.2 = .array (texts.map Value.text)) ∧
    (∀ o, ofText text = .ok o →
      named "excludes" members = [] ∧ o.excludes = [] ∨
        ∃ m, named "excludes" members = [m] ∧ m.2 = .array (o.excludes.map Value.text)) ∧
    ∀ others other, Spells (.element (.object others)) other.toList → HasTextKeys members →
      HasTextKeys others → named "excludes" others = named "excludes" members →
        (ofText other).toOption = (ofText text).toOption := by
  refine ⟨⟨?_, ?_⟩, fun o ho => ((ofText_eq_ok_iff h o).1 ho).2, ?_⟩
  · rintro ⟨o, ho⟩
    obtain ⟨hkeys, ⟨hnil, -⟩ | ⟨m, hone, hm⟩⟩ := (ofText_eq_ok_iff h o).1 ho
    · simp [hkeys, hnil]
    · exact ⟨hkeys, by simp [hone], by simpa [hone] using ⟨o.excludes, hm⟩⟩
  · rintro ⟨hkeys, hlength, hlists⟩
    cases hnamed : named "excludes" members with
    | nil => exact ⟨⟨[]⟩, (ofText_eq_ok_iff h _).2 ⟨hkeys, .inl ⟨hnamed, rfl⟩⟩⟩
    | cons m more =>
      rw [hnamed] at hlength hlists
      have hmore : more.length = 0 := by
        rw [List.length_cons] at hlength
        omega
      obtain rfl := List.length_eq_zero_iff.1 hmore
      obtain ⟨texts, hm⟩ := hlists m List.mem_cons_self
      exact ⟨⟨texts⟩, (ofText_eq_ok_iff h _).2 ⟨hkeys, .inr ⟨m, hnamed, hm⟩⟩⟩
  · intro others other hother hkeys hkeys' hnamed
    refine Option.ext fun o => ?_
    simp only [toOption_eq_some_iff, ofText_eq_ok_iff h, ofText_eq_ok_iff hother, hnamed, hkeys,
      hkeys', true_and]

theorem ofText_object_iff_escapedKey :
    Spells (.element (.object [(Utf16.encode "a".toList, .array [.object [], .number ['-', '1']]),
        (Utf16.encode "excludes".toList, .array [.text "t", .text "😀"])]))
      "\x7b\"a\":[\x7b\x7d,-1], \"\\u0065xcludes\":[\"t\",\"\\ud83d\\uDE00\"]\x7d".toList ∧
    ∃ o, ofText "\x7b\"a\":[\x7b\x7d,-1], \"\\u0065xcludes\":[\"t\",\"\\ud83d\\uDE00\"]\x7d" =
      .ok o := by
  have hblank : IsBlank [] := fun c hc => by cases hc
  have hspace : IsBlank [' '] := by simp [IsBlank]
  have hnumeral : IsNumeral ['-', '1'] :=
    @IsNumeral.mk ['-'] ['1'] [] [] (by decide) (.inr ⟨⟨by decide, by simp⟩, by decide⟩)
      (.inl rfl) (.inl rfl)
  have hunknown : Spells (.value (.array [.object [], .number ['-', '1']]))
      "[\x7b\x7d,-1]".toList :=
    .array (.nextElement (.element hblank (.emptyObject hblank) hblank)
      (.lastElement (.element hblank (.number hnumeral) hblank)))
  have hkey : SpellsString (Utf16.encode "excludes".toList) "\"\\u0065xcludes\"".toList :=
    ⟨"\\u0065xcludes".toList, .code (i := 0) (j := 0) (k := 6) (l := 5) (by decide) (by decide)
      (by decide) (by decide) (spellsUnits_encode (by decide)), rfl⟩
  have hpair : SpellsString (Utf16.encode "😀".toList) "\"\\ud83d\\uDE00\"".toList :=
    ⟨"\\ud83d\\uDE00".toList, .code (i := 13) (j := 8) (k := 3) (l := 13) (by decide) (by decide)
      (by decide) (by decide) (.code (i := 13) (j := 14) (k := 0) (l := 0) (by decide) (by decide)
      (by decide) (by decide) .nil), rfl⟩
  have hexcludes : Spells (.value (.array [.text "t", .text "😀"]))
      "[\"t\",\"\\ud83d\\uDE00\"]".toList :=
    .array (.nextElement
      (.element hblank (.string ⟨['t'], spellsUnits_encode (by decide), rfl⟩) hblank)
      (.lastElement (.element hblank (.string hpair) hblank)))
  refine ⟨?spells, (ofText_object_iff ?spells).1.2 ⟨?keys, by decide, ?lists⟩⟩
  case spells =>
    exact .element hblank (.object (.nextMember
      (.member hblank ⟨['a'], spellsUnits_encode (by decide), rfl⟩ hblank
        (.element hblank hunknown hblank))
      (.lastMember (.member hspace hkey hblank (.element hblank hexcludes hblank))))) hblank
  case keys =>
    simp only [HasTextKeys, List.forall_mem_cons]
    exact ⟨⟨"a", rfl⟩, ⟨"excludes", rfl⟩, fun m hm => by cases hm⟩
  case lists =>
    intro m hm
    obtain rfl : m = (Utf16.encode "excludes".toList, .array [.text "t", .text "😀"]) :=
      List.mem_singleton.1 hm
    exact ⟨["t", "😀"], rfl⟩

/-- A key with half of a surrogate pair is no text, and the object that it stands in gives no
options, although none of its members is `excludes`. -/
theorem ofText_loneSurrogateKey :
    Spells (.element (.object [([0xD800], .null)])) "\x7b\"\\ud800\":null\x7d".toList ∧
      named "excludes" [([0xD800], .null)] = [] ∧
      ofText "\x7b\"\\ud800\":null\x7d" = .error ⟨.brokenSurrogatePair, 9⟩ := by
  have hblank : IsBlank [] := fun c hc => by cases hc
  have hkey : SpellsString [0xD800] "\"\\ud800\"".toList :=
    ⟨"\\ud800".toList, .code (i := 13) (j := 8) (k := 0) (l := 0) (by decide) (by decide)
      (by decide) (by decide) .nil, rfl⟩
  have hmember : Spells (.member ([0xD800], .null)) "\"\\ud800\":null".toList :=
    .member hblank hkey hblank (.element hblank .null hblank)
  exact ⟨.element hblank (.object (.lastMember hmember)) hblank, rfl, by decide⟩

end ProseLint.Options
