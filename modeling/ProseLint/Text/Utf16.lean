/-!
# UTF-16 code units

String values of scripts are sequences of 16-bit code units, in which half of a surrogate pair may
stand alone. `decodeLossy` reads such a sequence as text: pairs become one character and every
unpaired surrogate becomes U+FFFD.
-/

namespace ProseLint.Text.Utf16

/-- A code unit that opens a surrogate pair. -/
def isHigh (u : UInt16) : Bool := 0xD800 ≤ u && u < 0xDC00

/-- A code unit that closes a surrogate pair. -/
def isLow (u : UInt16) : Bool := 0xDC00 ≤ u && u < 0xE000

/-- The code point that a pair of surrogates stands for. -/
def pairValue (high low : UInt16) : Nat :=
  0x10000 + (high.toNat - 0xD800) * 0x400 + (low.toNat - 0xDC00)

/-- What is read where no character stands. -/
def replacement : Char := '\ufffd'

/-- The character of a unit that is no half of a pair. -/
def ofUnit (u : UInt16) : Char :=
  if isHigh u || isLow u then replacement else Char.ofNat u.toNat

/-- The text of a sequence of code units; an unpaired surrogate reads as U+FFFD. -/
def decodeLossy : List UInt16 → List Char
  | [] => []
  | [u] => [ofUnit u]
  | u :: v :: rest =>
    if isHigh u && isLow v then Char.ofNat (pairValue u v) :: decodeLossy rest
    else ofUnit u :: decodeLossy (v :: rest)

/-- The code units of a code point; one beyond the basic plane takes a pair. -/
def unitsOf (code : Nat) : List UInt16 :=
  if code < 0x10000 then [code.toUInt16]
  else [(0xD800 + (code - 0x10000) / 0x400).toUInt16, (0xDC00 + (code - 0x10000) % 0x400).toUInt16]

/-- The code units of a text. -/
def encode (cs : List Char) : List UInt16 := cs.flatMap fun c => unitsOf c.toNat

end ProseLint.Text.Utf16
