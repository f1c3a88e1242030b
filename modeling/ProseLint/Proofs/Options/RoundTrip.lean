import ProseLint.Proofs.Options.Object

/-!
# Options that are written and read again

Written options are the text of an object whose only member is `excludes` (`spells_toText`), so what
the reader makes of them is what it makes of that object. Each character of an exclude is written
by one of three rules of the grammar: as itself, by the letter of an escape, or by the four digits
of its code. `ofText_toText` says that reading the written options gives the options back.
-/

namespace ProseLint.Options

open ProseLint.Json
open ProseLint.Text

/-! ## Strings -/

theorem hexDigit_mem {n : Nat} (h : n < 16) : (hexDigit n, n) ∈ hexDigits := by
  have htable : ∀ n < 16, (hexDigit n, n) ∈ hexDigits := by decide
  exact htable n h

theorem spellsUnits_writeChar (c : Char) {units : List UInt16} {cs : List Char}
    (h : SpellsUnits units cs) :
    SpellsUnits (Utf16.unitsOf c.toNat ++ units) (writeChar c ++ cs) := by
  unfold writeChar
  split
  iterate 7 exact .escape (by decide) h
  next hquote hescape _ _ _ _ _ =>
    split
    · next hcontrol =>
      -- below the blank the code has two digits behind two zeros
      have hzero : ('0', 0) ∈ hexDigits := by decide
      have hhigh : (hexDigit (c.toNat / 16), c.toNat / 16) ∈ hexDigits := hexDigit_mem (by omega)
      have hlow : (hexDigit (c.toNat % 16), c.toNat % 16) ∈ hexDigits := hexDigit_mem (by omega)
      have hspells := SpellsUnits.code hzero hzero hhigh hlow h
      have hcode : 0x1000 * 0 + 0x100 * 0 + 0x10 * (c.toNat / 16) + c.toNat % 16 = c.toNat := by
        omega
      have hunits : Utf16.unitsOf c.toNat = [c.toNat.toUInt16] := if_pos (by omega)
      rw [hcode] at hspells
      rw [hunits]
      exact hspells
    · next hcontrol => exact .plain hquote hescape (Nat.le_of_not_lt hcontrol) h

theorem spellsUnits_writeChars (cs : List Char) :
    SpellsUnits (Utf16.encode cs) (cs.flatMap writeChar) := by
  induction cs with
  | nil => exact .nil
  | cons c cs ih => exact spellsUnits_writeChar c ih

theorem spells_writeString (text : String) : Spells (.value (.text text)) (writeString text) :=
  .string ⟨_, spellsUnits_writeChars text.toList, rfl⟩

/-! ## The object -/

theorem spells_intersperse (text : String) (texts : List String) :
    Spells (.elements ((text :: texts).map Value.text))
      (((text :: texts).map writeString).intersperse [',']).flatten := by
  have hfirst := (spells_writeString text).asElement
  induction texts generalizing text with
  | nil => simpa using Spells.lastElement hfirst
  | cons next texts ih =>
    have hrest := ih next (spells_writeString next).asElement
    simpa using Spells.nextElement hfirst hrest

theorem spells_writeList (texts : List String) :
    Spells (.value (.array (texts.map Value.text))) (writeList texts) := by
  cases texts with
  | nil => exact .emptyArray isBlank_nil
  | cons text texts => exact .array (spells_intersperse text texts)

/-- The object that options are written as. -/
def toMembers (o : Options) : List Member :=
  [(Utf16.encode "excludes".toList, .array (o.excludes.map Value.text))]

theorem spells_toText (o : Options) :
    Spells (.element (.object o.toMembers)) o.toText.toList := by
  have hkey : SpellsString (Utf16.encode "excludes".toList) (writeString "excludes") :=
    ⟨_, spellsUnits_writeChars _, rfl⟩
  have hmember := Spells.member isBlank_nil hkey isBlank_nil
    (spells_writeList o.excludes).asElement
  have hobject := (Spells.object (.lastMember hmember)).asElement
  rw [toText, String.toList_ofList, toMembers]
  simpa [write] using hobject

/-- Options are written as the object of their excludes, and reading what is written gives the
options back, and with them the same exemptions. -/
theorem ofText_toText (o : Options) :
    Spells (.element (.object o.toMembers)) o.toText.toList ∧ ofText o.toText = .ok o ∧
      (ofText o.toText).map exemptions = .ok o.exemptions := by
  have hkeys : HasTextKeys o.toMembers := by
    intro m hm
    rw [List.mem_singleton.1 hm]
    exact ⟨"excludes", rfl⟩
  have hnamed : named "excludes" o.toMembers = o.toMembers := named_cons_of_eq rfl []
  have hread : ofText o.toText = .ok o :=
    (ofText_eq_ok_iff (spells_toText o) o).2 ⟨hkeys, .inr ⟨_, hnamed, rfl⟩⟩
  refine ⟨spells_toText o, hread, ?_⟩
  rw [hread]
  rfl

end ProseLint.Options
