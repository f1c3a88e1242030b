import ProseLint.Text.Utf16

/-!
# JSON texts

The grammar of JSON, said without a reader. A value can be written in many ways: with blanks
between its tokens, with or without escapes in its strings. `Spells` relates the parts of a text,
the phrases of the grammar, to the ways to write them. Strings are taken as the code units that they
stand for, since an escape may write half of a surrogate pair alone.
-/

namespace ProseLint.Json

open ProseLint.Text (Utf16.unitsOf Utf16.encode)

/-- A JSON value. A numeral stands for itself. -/
inductive Value where
  | null
  | boolean (value : Bool)
  | number (numeral : List Char)
  | string (units : List UInt16)
  | array (items : List Value)
  | object (members : List (List UInt16 × Value))

namespace Value

/-- The string that is a text. -/
def text (s : String) : Value := string (Utf16.encode s.toList)

/-- The value is neither a list nor an object. -/
def isScalar : Value → Bool
  | array _ | object _ => false
  | _ => true

end Value

/-- A member of an object: its key, as code units, and its value. -/
abbrev Member := List UInt16 × Value

/-- The members with this key. -/
def named (key : String) (members : List Member) : List Member :=
  members.filter fun m => m.1 = Utf16.encode key.toList

theorem named_cons_of_eq {key : String} {m : Member} (h : m.1 = Utf16.encode key.toList)
    (members : List Member) : named key (m :: members) = m :: named key members :=
  List.filter_cons_of_pos (decide_eq_true h)

theorem named_cons_of_ne {key : String} {m : Member} (h : m.1 ≠ Utf16.encode key.toList)
    (members : List Member) : named key (m :: members) = named key members :=
  List.filter_cons_of_neg (by rwa [decide_eq_true_eq])

/-- Every key stands for a text. -/
def HasTextKeys (members : List Member) : Prop :=
  ∀ m ∈ members, ∃ key : String, m.1 = Utf16.encode key.toList

/-! ## Scalars -/

/-- Any number of the characters that may stand between tokens. -/
def IsBlank (cs : List Char) : Prop := ∀ c ∈ cs, c ∈ [' ', '\t', '\n', '\r']

/-- The letters behind a backslash that stand for a character. -/
def escapes : List (Char × Char) :=
  [('\x22', '\x22'), ('\\', '\\'), ('/', '/'), ('b', '\x08'), ('f', '\x0c'), ('n', '\n'),
    ('r', '\r'), ('t', '\t')]

/-- The hexadecimal digits of both cases and their values. -/
def hexDigits : List (Char × Nat) :=
  "0123456789abcdef".toList.zipIdx ++ "ABCDEF".toList.zipIdx 10

/-- What stands between the quotes of a string, and the code units that it stands for. -/
inductive SpellsUnits : List UInt16 → List Char → Prop where
  | nil : SpellsUnits [] []
  | plain {c units cs} : c ≠ '\x22' → c ≠ '\\' → 0x20 ≤ c.toNat → SpellsUnits units cs →
    SpellsUnits (Utf16.unitsOf c.toNat ++ units) (c :: cs)
  | escape {letter c units cs} : (letter, c) ∈ escapes → SpellsUnits units cs →
    SpellsUnits (Utf16.unitsOf c.toNat ++ units) ('\\' :: letter :: cs)
  | code {a b c d : Char} {i j k l : Nat} {units cs} : (a, i) ∈ hexDigits → (b, j) ∈ hexDigits →
    (c, k) ∈ hexDigits → (d, l) ∈ hexDigits → SpellsUnits units cs →
    SpellsUnits ((0x1000 * i + 0x100 * j + 0x10 * k + l).toUInt16 :: units)
      ('\\' :: 'u' :: a :: b :: c :: d :: cs)

/-- Characters that need no escape are written as they are. -/
theorem spellsUnits_encode {cs : List Char}
    (h : cs.all fun c => c != '\x22' && c != '\\' && 0x20 ≤ c.toNat) :
    SpellsUnits (Utf16.encode cs) cs := by
  induction cs with
  | nil => exact .nil
  | cons c cs ih =>
    simp only [List.all_cons, Bool.and_eq_true, bne_iff_ne, decide_eq_true_eq] at h
    obtain ⟨⟨⟨hquote, hescape⟩, hcontrol⟩, hcs⟩ := h
    exact .plain hquote hescape hcontrol (ih hcs)

/-- A string between its quotes. -/
def SpellsString (units : List UInt16) (cs : List Char) : Prop :=
  ∃ inner, SpellsUnits units inner ∧ cs = '\x22' :: (inner ++ ['\x22'])

/-- One or more decimal digits. -/
def IsDigits (cs : List Char) : Prop := cs ≠ [] ∧ ∀ c ∈ cs, c.isDigit

/-- The digits before the point: a zero stands alone. -/
def IsWhole (cs : List Char) : Prop := cs = ['0'] ∨ IsDigits cs ∧ cs.head? ≠ some '0'

/-- A point with the digits behind it, or nothing. -/
def IsFraction (cs : List Char) : Prop := cs = [] ∨ ∃ digits, IsDigits digits ∧ cs = '.' :: digits

/-- A mark with the exponent behind it, or nothing. -/
def IsExponent (cs : List Char) : Prop :=
  cs = [] ∨ ∃ mark sign digits, mark ∈ ['e', 'E'] ∧ sign ∈ [[], ['+'], ['-']] ∧ IsDigits digits ∧
    cs = mark :: (sign ++ digits)

/-- A numeral with its parts. -/
inductive IsNumeral : List Char → Prop where
  | mk {sign whole fraction exponent} : sign ∈ [[], ['-']] → IsWhole whole → IsFraction fraction →
    IsExponent exponent → IsNumeral (sign ++ (whole ++ (fraction ++ exponent)))

/-! ## Phrases -/

/-- The parts of a text that have a grammar rule. -/
inductive Phrase where
  | value (v : Value)
  /-- A value with blanks around it. -/
  | element (v : Value)
  /-- One or more elements with commas between them. -/
  | elements (vs : List Value)
  | member (m : Member)
  /-- One or more members with commas between them. -/
  | members (ms : List Member)

/-- The ways to write a phrase. -/
inductive Spells : Phrase → List Char → Prop where
  | null : Spells (.value .null) ['n', 'u', 'l', 'l']
  | true : Spells (.value (.boolean true)) ['t', 'r', 'u', 'e']
  | false : Spells (.value (.boolean false)) ['f', 'a', 'l', 's', 'e']
  | number {cs} : IsNumeral cs → Spells (.value (.number cs)) cs
  | string {units cs} : SpellsString units cs → Spells (.value (.string units)) cs
  | emptyArray {blank} : IsBlank blank → Spells (.value (.array [])) ('[' :: (blank ++ [']']))
  | array {vs cs} : Spells (.elements vs) cs → Spells (.value (.array vs)) ('[' :: (cs ++ [']']))
  | emptyObject {blank} : IsBlank blank →
    Spells (.value (.object [])) ('\x7b' :: (blank ++ ['\x7d']))
  | object {ms cs} : Spells (.members ms) cs →
    Spells (.value (.object ms)) ('\x7b' :: (cs ++ ['\x7d']))
  | element {v before cs after} : IsBlank before → Spells (.value v) cs → IsBlank after →
    Spells (.element v) (before ++ (cs ++ after))
  | lastElement {v cs} : Spells (.element v) cs → Spells (.elements [v]) cs
  | nextElement {v vs cs ds} : Spells (.element v) cs → Spells (.elements vs) ds →
    Spells (.elements (v :: vs)) (cs ++ ',' :: ds)
  | member {units v before ks after cs} : IsBlank before → SpellsString units ks → IsBlank after →
    Spells (.element v) cs → Spells (.member (units, v)) (before ++ (ks ++ (after ++ ':' :: cs)))
  | lastMember {m cs} : Spells (.member m) cs → Spells (.members [m]) cs
  | nextMember {m ms cs ds} : Spells (.member m) cs → Spells (.members ms) ds →
    Spells (.members (m :: ms)) (cs ++ ',' :: ds)

theorem isBlank_nil : IsBlank [] := fun _ hc => nomatch hc

/-- A value needs no blanks around it. -/
theorem Spells.asElement {v : Value} {cs : List Char} (h : Spells (.value v) cs) :
    Spells (.element v) cs := by
  simpa using Spells.element isBlank_nil h isBlank_nil

/-! ## How values begin -/

/-- The value may begin with this character. -/
def Value.beginsWith : Value → Char → Bool
  | .null, c => c == 'n'
  | .boolean value, c => c == if value then 't' else 'f'
  | .number _, c => c == '-' || c.isDigit
  | .string _, c => c == '\x22'
  | .array _, c => c == '['
  | .object _, c => c == '\x7b'

theorem Value.eq_string_of_beginsWith {v : Value} (h : v.beginsWith '\x22') :
    ∃ units, v = .string units := by
  cases v with
  | string units => exact ⟨units, rfl⟩
  | boolean value => cases value <;> cases h
  | _ => cases h

theorem Value.eq_array_of_beginsWith {v : Value} (h : v.beginsWith '[') :
    ∃ items, v = .array items := by
  cases v with
  | array items => exact ⟨items, rfl⟩
  | boolean value => cases value <;> cases h
  | _ => cases h

/-- The digits before the point have a first one; none follow a zero. -/
theorem IsWhole.exists_cons {cs : List Char} (h : IsWhole cs) :
    ∃ c ds, cs = c :: ds ∧ c.isDigit ∧ (c = '0' → ds = []) ∧ ∀ d ∈ ds, d.isDigit := by
  rcases h with rfl | ⟨⟨hne, hdigits⟩, hhead⟩
  · exact ⟨'0', [], rfl, rfl, fun _ => rfl, fun d hd => by cases hd⟩
  · obtain ⟨c, ds, rfl⟩ := List.exists_cons_of_ne_nil hne
    refine ⟨c, ds, rfl, hdigits c List.mem_cons_self, fun hc => ?_, fun d hd => ?_⟩
    · exact absurd (congrArg some hc) hhead
    · exact hdigits d (List.mem_cons_of_mem _ hd)

theorem Spells.value_head {v : Value} {cs : List Char} (h : Spells (.value v) cs) :
    ∃ c ds, cs = c :: ds ∧ v.beginsWith c := by
  cases h with
  | number h =>
    obtain @⟨sign, whole, fraction, exponent, hsign, hwhole, -, -⟩ := h
    rcases List.mem_cons.1 hsign with rfl | hsign
    · obtain ⟨c, ds, rfl, hc, -⟩ := hwhole.exists_cons
      exact ⟨c, _, rfl, by simp [Value.beginsWith, hc]⟩
    · rw [List.mem_singleton.1 hsign]
      exact ⟨'-', _, rfl, rfl⟩
  | string h =>
    obtain ⟨inner, -, rfl⟩ := h
    exact ⟨'\x22', _, rfl, rfl⟩
  | null | true | false | emptyArray | array | emptyObject | object => exact ⟨_, _, rfl, rfl⟩

end ProseLint.Json
