/-!
# Binary64 values

A finite binary64 value is `±m · 2^e`, and `Float.toBits` holds its sign, biased exponent and
fraction. This module reads those parts back, and rounds a natural number to the nearest binary64
value, a tie going to the even significand, by building the bits itself.
-/

namespace KeyCustody.Binary64

/-- A finite value `±significand · 2^exponent`, with the width of its rounding interval below. -/
structure Parts where
  negative : Bool
  significand : Nat
  exponent : Int
  /-- The next value below is nearer than the next one above: the significand is `2^52`
  and the exponent is not the least. -/
  lowerCloser : Bool
  deriving Repr

/-- The parts of a finite value; `none` for an infinity or a NaN. -/
def decode (x : Float) : Option Parts :=
  let bits := x.toBits.toNat
  let negative := bits / Nat.pow 2 63 = 1
  let biased : Nat := (bits / Nat.pow 2 52) % 2048
  let fraction : Nat := bits % Nat.pow 2 52
  if biased = 2047 then none
  else if biased = 0 then some ⟨negative, fraction, -1074, false⟩
  else some ⟨negative, fraction + Nat.pow 2 52, (biased : Int) - 1075, fraction = 0 ∧ biased > 1⟩

/-- The bits of the value `q · 2^(L - 52)` for `2^52 ≤ q < 2^53`, or of infinity when too large. -/
def bitsOf (q L : Nat) : UInt64 :=
  if L + 1023 ≥ 2047 then 0x7FF0000000000000
  else ((L + 1023) * Nat.pow 2 52 + (q - Nat.pow 2 52)).toUInt64

/-- The binary64 value nearest to `n`, a tie going to the even significand. -/
def ofNat (n : Nat) : Float :=
  if n = 0 then Float.ofBits 0
  else
    let L := n.log2
    if L ≤ 52 then Float.ofBits (bitsOf (n * Nat.pow 2 (52 - L)) L)
    else
      let shift := L - 52
      let q := n / Nat.pow 2 shift
      let r := n % Nat.pow 2 shift
      let half := Nat.pow 2 (shift - 1)
      let up := r > half ∨ (r = half ∧ q % 2 = 1)
      let q := if up then q + 1 else q
      if q = Nat.pow 2 53 then Float.ofBits (bitsOf (Nat.pow 2 52) (L + 1))
      else Float.ofBits (bitsOf q L)

/-- `10^k` as the nearest binary64 value. -/
def pow10 (k : Nat) : Float := ofNat (Nat.pow 10 k)

end KeyCustody.Binary64
