/-!
# Shortest decimals

A binary floating-point number is written with the fewest decimal digits that read back as the
same number, and among those with the nearest. `Shortest.ofBinary` finds them exactly: every
number that rounds to `mantissa * 2 ^ exponent` lies in an interval around it, and the coarsest
decimal grid with a point in that interval gives the digits.
-/

namespace ProseLint.Decimal

/-- A positive binary floating-point number, `mantissa * 2 ^ exponent`. -/
structure Binary where
  mantissa : Nat
  exponent : Int
deriving Repr, DecidableEq, Inhabited

namespace Binary

/-- The least mantissa of a number that is not too small for its full length. -/
def leastMantissa : Nat := Nat.pow 2 52

/-- The number whose encoding in 64 bits, the sign apart, this is; `none` for zero. -/
def ofBits? (bits : Nat) : Option Binary :=
  let fraction := bits % leastMantissa
  let biased := bits / leastMantissa % Nat.pow 2 11
  if biased == 0 then if fraction == 0 then none else some ⟨fraction, -1074⟩
  else some ⟨leastMantissa + fraction, Int.ofNat biased - 1075⟩

/-- The distance to the lower neighbour in quarters of the last place, halved: it shrinks where the
mantissa is the least of its length. -/
def lowerQuarters (b : Binary) : Nat :=
  if b.mantissa == leastMantissa && -1074 < b.exponent then 1 else 2

end Binary

/-- A decimal number, `digits * 10 ^ exponent`. -/
structure Value where
  digits : Nat
  exponent : Int
deriving Repr, DecidableEq, Inhabited

namespace Shortest

/-- Two numbers with the same quotient as `n * 2 ^ p / 10 ^ k`. -/
def scaled (n : Nat) (p k : Int) : Nat × Nat :=
  (n * Nat.pow 2 p.toNat * Nat.pow 10 (-k).toNat, Nat.pow 2 (-p).toNat * Nat.pow 10 k.toNat)

/-- Does `d * 10 ^ k` round to the binary number? The ends of the interval belong to it when the
mantissa is even. -/
def roundsTo (b : Binary) (k : Int) (d : Nat) : Bool :=
  let (low, den) := scaled (4 * b.mantissa - b.lowerQuarters) (b.exponent - 2) k
  let (high, _) := scaled (4 * b.mantissa + 2) (b.exponent - 2) k
  if b.mantissa % 2 == 0 then low ≤ d * den && d * den ≤ high
  else low < d * den && d * den < high

/-- The point nearest to the binary number among those of the grid `10 ^ k` that round to it. -/
def onGrid? (b : Binary) (k : Int) : Option Value :=
  let (num, den) := scaled b.mantissa b.exponent k
  let below := num / den
  let remainder := num % den
  match roundsTo b k below, roundsTo b k (below + 1) with
  | true, true =>
    let up := den < 2 * remainder || (den == 2 * remainder && below % 2 == 1)
    some ⟨if up then below + 1 else below, k⟩
  | true, false => some ⟨below, k⟩
  | false, true => some ⟨below + 1, k⟩
  | false, false => none

/-- The grids from coarse to fine that can hold the shortest decimal of a number in 64 bits. -/
def grids : List Int := (List.range 633).map fun i => 308 - Int.ofNat i

/-- The shortest decimal that reads back as the binary number. -/
def ofBinary (b : Binary) : Value := (grids.findSome? (onGrid? b)).getD ⟨0, 0⟩

end Shortest

end ProseLint.Decimal
