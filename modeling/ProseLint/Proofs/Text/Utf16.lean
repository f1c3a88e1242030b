import ProseLint.Text.Utf16

/-!
# Code units that stand for text

A sequence of code units stands for a text if its surrogates come in pairs. `decode?` reads such
sequences only, and it is the inverse of `encode` (`decode?_eq_some_iff`). `decodeLossy` reads all
sequences, unit by unit where no surrogate stands (`exists_decodeLossy_cons`).
-/

namespace ProseLint.Text.Utf16

/-- The text that the code units stand for; none if half of a pair stands alone. -/
def decode? : List UInt16 → Option (List Char)
  | [] => some []
  | u :: units =>
    if isHigh u then
      match units with
      | [] => none
      | v :: units =>
        if isLow v then (decode? units).map (Char.ofNat (pairValue u v) :: ·) else none
    else if isLow u then none
    else (decode? units).map (Char.ofNat u.toNat :: ·)

theorem isHigh_iff {u : UInt16} : isHigh u ↔ 0xD800 ≤ u.toNat ∧ u.toNat < 0xDC00 := by
  simp [isHigh, UInt16.le_iff_toNat_le, UInt16.lt_iff_toNat_lt]

theorem isLow_iff {u : UInt16} : isLow u ↔ 0xDC00 ≤ u.toNat ∧ u.toNat < 0xE000 := by
  simp [isLow, UInt16.le_iff_toNat_le, UInt16.lt_iff_toNat_lt]

theorem toNat_ofNat {code : Nat} (h : code.isValidChar) : (Char.ofNat code).toNat = code := by
  rw [Char.ofNat, dif_pos h]
  rfl

/-! ## Single characters -/

/-- The unit of a character of the basic plane is no half of a pair. -/
theorem unitsOf_of_lt {c : Char} (h : c.toNat < 0x10000) :
    ∃ u, unitsOf c.toNat = [u] ∧ isHigh u = false ∧ isLow u = false ∧ Char.ofNat u.toNat = c := by
  have hvalue : c.toNat.toUInt16.toNat = c.toNat := by simpa using h
  have hvalid : c.toNat < 0xD800 ∨ 0xDFFF < c.toNat ∧ c.toNat < 0x110000 := c.valid
  refine ⟨c.toNat.toUInt16, by rw [unitsOf, if_pos h], ?_, ?_, ?_⟩
  · rw [← Bool.not_eq_true, isHigh_iff, hvalue]
    omega
  · rw [← Bool.not_eq_true, isLow_iff, hvalue]
    omega
  · rw [hvalue, Char.ofNat_toNat]

/-- The units of a character beyond the basic plane are a pair. -/
theorem unitsOf_of_ge {c : Char} (h : 0x10000 ≤ c.toNat) :
    ∃ u v, unitsOf c.toNat = [u, v] ∧ isHigh u ∧ isLow v ∧ Char.ofNat (pairValue u v) = c := by
  have hvalid : c.toNat < 0xD800 ∨ 0xDFFF < c.toNat ∧ c.toNat < 0x110000 := c.valid
  have hhigh : (0xD800 + (c.toNat - 0x10000) / 0x400).toUInt16.toNat =
      0xD800 + (c.toNat - 0x10000) / 0x400 := by
    simp only [UInt16.toNat_ofNat']
    omega
  have hlow : (0xDC00 + (c.toNat - 0x10000) % 0x400).toUInt16.toNat =
      0xDC00 + (c.toNat - 0x10000) % 0x400 := by
    simp only [UInt16.toNat_ofNat']
    omega
  refine ⟨_, _, by rw [unitsOf, if_neg (Nat.not_lt.2 h)], isHigh_iff.2 ?_, isLow_iff.2 ?_, ?_⟩
  · rw [hhigh]
    omega
  · rw [hlow]
    omega
  · have hpair : pairValue (0xD800 + (c.toNat - 0x10000) / 0x400).toUInt16
        (0xDC00 + (c.toNat - 0x10000) % 0x400).toUInt16 = c.toNat := by
      unfold pairValue
      omega
    rw [hpair, Char.ofNat_toNat]

theorem unitsOf_ofNat {u : UInt16} (hhigh : isHigh u = false) (hlow : isLow u = false) :
    unitsOf (Char.ofNat u.toNat).toNat = [u] := by
  rw [← Bool.not_eq_true, isHigh_iff] at hhigh
  rw [← Bool.not_eq_true, isLow_iff] at hlow
  have hlt := u.toNat_lt
  rw [toNat_ofNat (by unfold Nat.isValidChar; omega), unitsOf, if_pos (by omega)]
  simp

theorem pairValue_bounds {u v : UInt16} (hu : isHigh u) (hv : isLow v) :
    0x10000 ≤ pairValue u v ∧ pairValue u v < 0x110000 := by
  rw [isHigh_iff] at hu
  rw [isLow_iff] at hv
  unfold pairValue
  omega

theorem unitsOf_pairValue {u v : UInt16} (hhigh : isHigh u) (hlow : isLow v) :
    unitsOf (Char.ofNat (pairValue u v)).toNat = [u, v] := by
  have hvalue := pairValue_bounds hhigh hlow
  rw [isHigh_iff] at hhigh
  rw [isLow_iff] at hlow
  have hu : (0xD800 + (pairValue u v - 0x10000) / 0x400).toUInt16 = u := by
    rw [← UInt16.toNat_inj, UInt16.toNat_ofNat']
    unfold pairValue
    omega
  have hv : (0xDC00 + (pairValue u v - 0x10000) % 0x400).toUInt16 = v := by
    rw [← UInt16.toNat_inj, UInt16.toNat_ofNat']
    unfold pairValue
    omega
  rw [toNat_ofNat (by unfold Nat.isValidChar; omega), unitsOf, if_neg (by omega), hu, hv]

/-! ## Texts -/

theorem decode?_cons_of_isLow {u : UInt16} (h : isLow u) (units : List UInt16) :
    decode? (u :: units) = none := by
  have hhigh : isHigh u = false := by
    rw [← Bool.not_eq_true, isHigh_iff]
    rw [isLow_iff] at h
    omega
  rw [decode?.eq_def]
  simp [hhigh, h]

theorem decode?_cons_of_isHigh {u v : UInt16} (h : isHigh u) (hv : isLow v) (units : List UInt16) :
    decode? (u :: v :: units) = (decode? units).map (Char.ofNat (pairValue u v) :: ·) := by
  rw [decode?.eq_def]
  simp [h, hv]

/-- The first half of a pair stands for nothing where the second does not follow. -/
theorem decode?_cons_eq_none {u : UInt16} (h : isHigh u) {units : List UInt16}
    (hunits : ∀ v, units.head? = some v → isLow v = false) : decode? (u :: units) = none := by
  rw [decode?.eq_def]
  cases units with
  | nil => simp [h]
  | cons v units => simp [h, hunits v rfl]

theorem decode?_cons_of_not_surrogate {u : UInt16} (hhigh : isHigh u = false)
    (hlow : isLow u = false) (units : List UInt16) :
    decode? (u :: units) = (decode? units).map (Char.ofNat u.toNat :: ·) := by
  rw [decode?.eq_def]
  simp [hhigh, hlow]

/-- The units of a character are read as the character, whatever follows. -/
theorem decode?_unitsOf_append (c : Char) (units : List UInt16) :
    decode? (unitsOf c.toNat ++ units) = (decode? units).map (c :: ·) := by
  by_cases h : c.toNat < 0x10000
  · obtain ⟨u, hunits, hhigh, hlow, hc⟩ := unitsOf_of_lt h
    rw [hunits, List.singleton_append, decode?_cons_of_not_surrogate hhigh hlow, hc]
  · obtain ⟨u, v, hunits, hhigh, hlow, hc⟩ := unitsOf_of_ge (Nat.not_lt.1 h)
    rw [hunits, List.cons_append, List.singleton_append, decode?_cons_of_isHigh hhigh hlow, hc]

/-- No character begins with the second half of a pair. -/
theorem isLow_of_head?_unitsOf {c : Char} {units : List UInt16} {v : UInt16}
    (h : (unitsOf c.toNat ++ units).head? = some v) : isLow v = false := by
  by_cases hc : c.toNat < 0x10000
  · obtain ⟨u, hunits, -, hlow, -⟩ := unitsOf_of_lt hc
    rw [hunits] at h
    exact Option.some.inj h ▸ hlow
  · obtain ⟨u, w, hunits, hhigh, -, -⟩ := unitsOf_of_ge (Nat.not_lt.1 hc)
    rw [hunits] at h
    cases Option.some.inj h
    rw [← Bool.not_eq_true, isLow_iff]
    rw [isHigh_iff] at hhigh
    omega

theorem decode?_encode (cs : List Char) : decode? (encode cs) = some cs := by
  induction cs with
  | nil => rfl
  | cons c cs ih =>
    rw [encode, List.flatMap_cons, decode?_unitsOf_append, ← encode, ih]
    rfl

theorem encode_injective : Function.Injective encode := fun cs ds h =>
  Option.some.inj (by rw [← decode?_encode cs, h, decode?_encode])

theorem eq_encode_of_decode? {units : List UInt16} {cs : List Char}
    (h : decode? units = some cs) : units = encode cs := by
  fun_induction decode? units generalizing cs with
  | case1 =>
    cases Option.some.inj h
    rfl
  | case3 u hhigh v units hlow ih =>
    obtain ⟨ds, hds, rfl⟩ := Option.map_eq_some_iff.1 h
    rw [encode, List.flatMap_cons, unitsOf_pairValue hhigh hlow, ← encode, ← ih hds]
    rfl
  | case6 u units hhigh hlow ih =>
    obtain ⟨ds, hds, rfl⟩ := Option.map_eq_some_iff.1 h
    rw [encode, List.flatMap_cons, unitsOf_ofNat (by simpa using hhigh) (by simpa using hlow),
      ← encode, ← ih hds]
    rfl
  | _ => cases h

/-- The units stand for a text exactly if they are its units. -/
theorem decode?_eq_some_iff {units : List UInt16} {cs : List Char} :
    decode? units = some cs ↔ units = encode cs :=
  ⟨eq_encode_of_decode?, fun h => h ▸ decode?_encode cs⟩

/-! ## Surrogates that stand alone -/

theorem toNat_ofUnit (u : UInt16) :
    (ofUnit u).toNat = if isHigh u || isLow u then 0xFFFD else u.toNat := by
  unfold ofUnit
  split
  · rfl
  · next h =>
    rw [Bool.or_eq_true, isHigh_iff, isLow_iff] at h
    have hlt := u.toNat_lt
    exact toNat_ofNat (by unfold Nat.isValidChar; omega)

/-- The first unit reads as the character of its code, and the others are read without it; or it is
a surrogate, and the first character has at least the code U+FFFD. -/
theorem exists_decodeLossy_cons (u : UInt16) (units : List UInt16) :
    ∃ c cs, decodeLossy (u :: units) = c :: cs ∧
      (c.toNat = u.toNat ∧ cs = decodeLossy units ∨
        (isHigh u || isLow u) = true ∧ 0xFFFD ≤ c.toNat) := by
  have hunit : (ofUnit u).toNat = u.toNat ∧ decodeLossy units = decodeLossy units ∨
      (isHigh u || isLow u) = true ∧ 0xFFFD ≤ (ofUnit u).toNat := by
    rw [toNat_ofUnit]
    split
    · exact .inr ⟨‹_›, Nat.le_refl _⟩
    · exact .inl ⟨rfl, rfl⟩
  cases units with
  | nil => exact ⟨_, _, rfl, hunit⟩
  | cons v units =>
    rw [decodeLossy]
    split
    · next hpair =>
      rw [Bool.and_eq_true] at hpair
      have hvalue := pairValue_bounds hpair.1 hpair.2
      refine ⟨_, _, rfl, .inr ⟨by rw [hpair.1, Bool.true_or], ?_⟩⟩
      rw [toNat_ofNat (by unfold Nat.isValidChar; omega)]
      omega
    · exact ⟨_, _, rfl, hunit⟩

end ProseLint.Text.Utf16
