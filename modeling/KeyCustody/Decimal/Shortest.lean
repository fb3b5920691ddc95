import KeyCustody.Decimal.Binary

/-!
# Shortest decimals

The shortest decimal that reads back as a given binary64 value. The values that read back as
`v = m · 2^e` form an interval around it, reaching halfway to each neighbour, its ends included
exactly when `m` is even. For one, two, … seventeen significant digits the two neighbours of `v`
on that decimal grid are tried, in exact integer arithmetic: the first grid on which one of them
lies in the interval gives the digits, the nearer of two to `v`, and of two equally near the one
with an even last digit.

The result is written by a `Format`: positional when the decimal exponent is within its bounds,
otherwise as digits with a point after the first and an exponent.
-/

namespace KeyCustody.Decimal

/-- The number of decimal digits of `n`, one for zero. -/
def digitCount (n : Nat) : Nat :=
  if n < 10 then 1 else digitCount (n / 10) + 1
termination_by n
decreasing_by omega

/-- Compares `d · 10^k` with `x · 2^b`. -/
def compareScaled (d : Nat) (k : Int) (x : Nat) (b : Int) : Ordering :=
  let lhs := d * Nat.pow 10 k.toNat * Nat.pow 2 (-b).toNat
  let rhs := x * Nat.pow 2 b.toNat * Nat.pow 10 (-k).toNat
  compare lhs rhs

/-- `⌊m · 2^e / 10^k⌋`. -/
def floorScaled (m : Nat) (e k : Int) : Nat :=
  m * Nat.pow 2 e.toNat * Nat.pow 10 (-k).toNat / (Nat.pow 2 (-e).toNat * Nat.pow 10 k.toNat)

/-- A decimal `digits · 10^exponent`. -/
structure Digits where
  digits : Nat
  exponent : Int
  deriving Repr, DecidableEq

/-- Drops trailing zero digits into the exponent. -/
def trim (d : Nat) (k : Int) : Digits :=
  if d % 10 = 0 ∧ d > 0 then trim (d / 10) (k + 1) else ⟨d, k⟩
termination_by d
decreasing_by omega

/-- The rounding interval of `m · 2^e`, scaled by four: `[lo, hi] · 2^(e-2)`. -/
structure Interval where
  lo : Nat
  hi : Nat
  inclusive : Bool

/-- Whether `d · 10^k` reads back as the value of the interval `iv` at scale `b`. -/
def Interval.holds (iv : Interval) (b : Int) (d : Nat) (k : Int) : Bool :=
  match compareScaled d k iv.lo b, compareScaled d k iv.hi b with
  | .gt, .lt => true
  | .eq, .lt => iv.inclusive
  | .gt, .eq => iv.inclusive
  | .eq, .eq => iv.inclusive
  | _, _ => false

/-- The digits of `m · 2^e` on the grid `10^k`, if one of the two neighbours reads back. -/
def onGrid (m : Nat) (e : Int) (iv : Interval) (k : Int) : Option Nat :=
  let b := e - 2
  let q := floorScaled m e k
  let downOk := q > 0 && iv.holds b q k
  let upOk := iv.holds b (q + 1) k
  if downOk && upOk then
    -- nearer of the two: compare 2·v with (2q+1)·10^k
    match compareScaled (2 * q + 1) k (8 * m) b with
    | .lt => some (q + 1)
    | .gt => some q
    | .eq => some (if q % 2 = 0 then q else q + 1)
  else if downOk then some q
  else if upOk then some (q + 1)
  else none

/-- The shortest decimal that reads back as the positive value `m · 2^e`. -/
def shortest (m : Nat) (e : Int) (lowerCloser : Bool) : Digits :=
  let iv : Interval :=
    { lo := 4 * m - (if lowerCloser then 1 else 2), hi := 4 * m + 2, inclusive := m % 2 = 0 }
  -- the decimal exponent of the leading digit
  let top : Int := (digitCount (floorScaled m e (-350)) : Int) - 1 - 350
  let rec search : List Nat → Digits
    | [] => ⟨m, 0⟩
    | n :: rest =>
      let k := top - n + 1
      match onGrid m e iv k with
      | some d => trim d k
      | none => search rest
  search (List.range' 1 17)

/-- How a decimal is written. -/
structure Format where
  /-- The least decimal exponent written positionally. -/
  lowest : Int
  /-- The greatest decimal exponent written positionally. -/
  highest : Int
  /-- The sign written before a non-negative exponent. -/
  positiveSign : String

/-- `n` zeros. -/
def zeros (n : Nat) : String := String.ofList (List.replicate n '0')

/-- Writes the positive decimal `d`. -/
def Digits.render (fmt : Format) (d : Digits) : String :=
  let s := toString d.digits
  let len := s.length
  let sci : Int := (len : Int) - 1 + d.exponent
  if fmt.lowest ≤ sci ∧ sci ≤ fmt.highest then
    if d.exponent ≥ 0 then s ++ zeros d.exponent.toNat ++ ".0"
    else if sci ≥ 0 then
      let cut := (sci + 1).toNat
      String.ofList (s.toList.take cut) ++ "." ++ String.ofList (s.toList.drop cut)
    else "0." ++ zeros (-sci - 1).toNat ++ s
  else
    let mant := match s.toList with
      | c :: rest@(_ :: _) => String.ofList (c :: '.' :: rest)
      | cs => String.ofList cs
    let expText := if sci ≥ 0 then fmt.positiveSign ++ toString sci.toNat else "-" ++ toString (-sci).toNat
    mant ++ "e" ++ expText

/-- Writes a binary64 value as its shortest decimal; `NaN` and `inf` for the others. -/
def renderFloat (fmt : Format) (x : Float) : String :=
  match Binary64.decode x with
  | none => if x.isNaN then "NaN" else if x > 0 then "inf" else "-inf"
  | some p =>
    let sign := if p.negative then "-" else ""
    if p.significand = 0 then sign ++ "0.0"
    else sign ++ (shortest p.significand p.exponent p.lowerCloser).render fmt

end KeyCustody.Decimal
