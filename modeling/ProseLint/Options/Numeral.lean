import ProseLint.Decimal.Shortest

/-!
# Numerals

A numeral in an options text is only ever named in an error, so all that matters is how it is
shown: as an integer while it fits in 64 bits, else as a floating-point number. Digits are
gathered into a significand of 64 bits; those that no longer fit scale it before the point and are
dropped behind it.
-/

namespace ProseLint.Options

/-- What is read of a numeral. -/
structure Numeral where
  negative : Bool
  /-- The digits that fit in 64 bits. -/
  significand : Nat := 0
  /-- The power of ten that the significand is scaled by, the written exponent apart. -/
  scale : Int := 0
  /-- Digits no longer fit in the part that is being read. -/
  full : Bool := false
  /-- Neither a point nor an exponent was read, and all digits fit. -/
  integral : Bool := true
  exponentNegative : Bool := false
  /-- The written exponent. -/
  exponent : Nat := 0
deriving Repr, DecidableEq, Inhabited

namespace Numeral

/-- The value of a decimal digit. -/
def digitValue (c : Char) : Nat := c.toNat - '0'.toNat

/-- Does the significand have room for one more digit? -/
def fits (n : Numeral) (digit : Nat) : Bool :=
  !n.full && n.significand * 10 + digit < Nat.pow 2 64

/-- One more digit before the point. -/
def addWhole (n : Numeral) (c : Char) : Numeral :=
  if n.fits (digitValue c) then
    { n with significand := n.significand * 10 + digitValue c }
  else { n with full := true, integral := false, scale := n.scale + 1 }

/-- The point: digits behind it may fit again. -/
def addPoint (n : Numeral) : Numeral := { n with full := false, integral := false }

/-- One more digit behind the point. -/
def addFraction (n : Numeral) (c : Char) : Numeral :=
  if n.fits (digitValue c) then
    { n with significand := n.significand * 10 + digitValue c, scale := n.scale - 1 }
  else { n with full := true }

/-- The mark of the exponent. -/
def addMark (n : Numeral) : Numeral := { n with integral := false }

/-- One more digit of the exponent. -/
def addExponent (n : Numeral) (c : Char) : Numeral :=
  { n with exponent := n.exponent * 10 + digitValue c }

/-- Is the exponent so large that reading stops? -/
def exponentOverflows (n : Numeral) : Bool :=
  Nat.pow 2 31 ≤ n.exponent && !n.exponentNegative && n.significand != 0

/-- The power of ten that the significand is scaled by. -/
def power (n : Numeral) : Int :=
  if n.exponentNegative then n.scale - n.exponent else n.scale + n.exponent

/-- Ten to a power that a floating-point number can hold. -/
def tenTo (k : Nat) : Float := Float.ofScientific 1 false k

/-- The floating-point number without its sign; `none` if it is too large. Powers beyond the range
of floating-point numbers are divided out in two steps. -/
def magnitude? (n : Numeral) : Option Float :=
  let f := n.significand.toUInt64.toFloat
  let power := n.power
  if n.significand == 0 then some f
  else if 308 < power then none
  else if 0 ≤ power then
    let product := f * tenTo power.toNat
    if product.isFinite then some product else none
  else if -308 ≤ power then some (f / tenTo (-power).toNat)
  else if -616 ≤ power then some (f / tenTo 308 / tenTo (-power - 308).toNat)
  else some 0

/-- The integer that the numeral is, if it is written as one and fits in 64 bits. -/
def integer? (n : Numeral) : Option Int :=
  if !n.integral then none
  else if !n.negative then some n.significand
  else if 0 < n.significand && n.significand ≤ Nat.pow 2 63 then some (-Int.ofNat n.significand)
  else none

/-- A number with at least one digit behind the point, or with an exponent of at least two digits
if its first digit is worth more than `10 ^ 15` or less than `10 ^ -5`. -/
def decimalText (d : Decimal.Value) : String :=
  let digits := (toString d.digits).toList
  let leading := d.exponent + Int.ofNat digits.length - 1
  let zeros (k : Nat) : List Char := List.replicate k '0'
  String.ofList <|
    if leading < -5 || 15 < leading then
      let fraction := match digits.drop 1 with
        | [] => []
        | rest => '.' :: rest
      let size := (toString leading.natAbs).toList
      digits.take 1 ++ fraction ++ 'e' :: (if leading < 0 then '-' else '+') ::
        (zeros (2 - size.length) ++ size)
    else if leading < 0 then '0' :: '.' :: (zeros (-leading - 1).toNat ++ digits)
    else if 0 ≤ d.exponent then digits ++ zeros d.exponent.toNat ++ ['.', '0']
    else digits.take (leading.toNat + 1) ++ '.' :: digits.drop (leading.toNat + 1)

/-- A floating-point number that is not negative, as it is shown. -/
def floatText (f : Float) : String :=
  match Decimal.Binary.ofBits? f.toBits.toNat with
  | some b => decimalText (Decimal.Shortest.ofBinary b)
  | none => "0.0"

/-- The words for a numeral; `none` if it is too large. -/
def describe? (n : Numeral) : Option String :=
  match n.integer? with
  | some i => some ("integer `" ++ toString i ++ "`")
  | none => n.magnitude?.map fun f =>
    "floating point `" ++ (if n.negative then "-" else "") ++ floatText f ++ "`"

end Numeral

end ProseLint.Options
