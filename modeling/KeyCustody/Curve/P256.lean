import KeyCustody.Curve.Arith
import KeyCustody.Hash.Sha256

/-!
# ECDSA on P-256 with SHA-256

Verification of ECDSA signatures over the NIST curve `y² = x³ - 3x + b` modulo
`p = 2^256 - 2^224 + 2^192 + 2^96 - 1`, whose base point `G` has prime order `n`.

* A public key is the 65 bytes `04 ‖ x ‖ y` of a point on the curve, `x, y < p`, big-endian.
* A signature is either the 64 bytes `r ‖ s` (fixed form) or a DER sequence of two integers
  (see `Der`), and in both `1 ≤ r, s < n`.
* With `e` the SHA-256 digest of the message read big-endian modulo `n` and `w = s⁻¹ mod n`,
  the signature holds when `X = [e·w]G + [r·w]Q` is not the point at infinity and
  `x(X) mod n = r`.

Points are kept in Jacobian coordinates `(X : Y : Z)` for `x = X/Z²`, `y = Y/Z³`; `Z = 0` is the
point at infinity.
-/

namespace KeyCustody.P256

open Arith

/-- The field prime. -/
def fieldPrime : Nat := Nat.pow 2 256 - Nat.pow 2 224 + Nat.pow 2 192 + Nat.pow 2 96 - 1

/-- The order of the base point. -/
def groupOrder : Nat := 0xffffffff00000000ffffffffffffffffbce6faada7179e84f3b9cac2fc632551

/-- The curve constant `b`. -/
def curveB : Nat := 0x5ac635d8aa3a93e7b3ebbd55769886bc651d06b0cc53b0f63bce3c3e27d2604b

/-- A point in Jacobian coordinates. -/
structure Point where
  x : Nat
  y : Nat
  z : Nat

/-- The point at infinity. -/
def Point.infinity : Point := ⟨1, 1, 0⟩

/-- The base point. -/
def basePoint : Point :=
  ⟨0x6b17d1f2e12c4247f8bce6e563a440f277037d812deb33a0f4a13945d898c296,
   0x4fe342e2fe1a7f9b8ee7eb4a7c0f9e162bce33576b315ececbb6406837bf51f5, 1⟩

/-- Twice a point. -/
def Point.double (P : Point) : Point :=
  let q := fieldPrime
  if P.z = 0 ∨ P.y = 0 then Point.infinity
  else
    let delta := P.z * P.z % q
    let gamma := P.y * P.y % q
    let beta := P.x * gamma % q
    let alpha := 3 * subMod P.x delta q * ((P.x + delta) % q) % q
    let x3 := subMod (alpha * alpha % q) (8 * beta % q) q
    let z3 := subMod (subMod ((P.y + P.z) * (P.y + P.z) % q) gamma q) delta q
    let y3 := subMod (alpha * subMod (4 * beta % q) x3 q % q) (8 * (gamma * gamma % q) % q) q
    ⟨x3, y3, z3⟩

/-- Sum of two points. -/
def Point.add (P Q : Point) : Point :=
  let q := fieldPrime
  if P.z = 0 then Q
  else if Q.z = 0 then P
  else
    let z1z1 := P.z * P.z % q
    let z2z2 := Q.z * Q.z % q
    let u1 := P.x * z2z2 % q
    let u2 := Q.x * z1z1 % q
    let s1 := P.y * Q.z % q * z2z2 % q
    let s2 := Q.y * P.z % q * z1z1 % q
    if u1 = u2 then
      if s1 = s2 then P.double else Point.infinity
    else
      let h := subMod u2 u1 q
      let i := 4 * (h * h % q) % q
      let j := h * i % q
      let r := 2 * subMod s2 s1 q % q
      let v := u1 * i % q
      let x3 := subMod (subMod (r * r % q) j q) (2 * v % q) q
      let y3 := subMod (r * subMod v x3 q % q) (2 * (s1 * j % q) % q) q
      let z3 := subMod (subMod ((P.z + Q.z) * (P.z + Q.z) % q) z1z1 q) z2z2 q * h % q
      ⟨x3, y3, z3⟩

/-- `[k]P`, by doubling and adding from the top bit down. -/
def Point.mul (k : Nat) (P : Point) : Point :=
  if k = 0 then Point.infinity
  else
    let half := Point.mul (k / 2) P
    let double := half.double
    if k % 2 = 0 then double else double.add P
termination_by k
decreasing_by omega

/-- The affine `x` of a finite point. -/
def Point.affineX (P : Point) : Nat :=
  let zi := powMod P.z (fieldPrime - 2) fieldPrime
  P.x * (zi * zi % fieldPrime) % fieldPrime

/-- The point of an uncompressed public key, if the bytes are one. -/
def decodePublicKey (bs : List UInt8) : Option Point :=
  match bs with
  | 4 :: rest =>
    if rest.length ≠ 64 then none
    else
      let x := ofBigEndian (rest.take 32)
      let y := ofBigEndian (rest.drop 32)
      let q := fieldPrime
      if x ≥ q ∨ y ≥ q then none
      else if y * y % q ≠ (x * x % q * x + q * 3 - 3 * x + curveB) % q then none
      else some ⟨x, y, 1⟩
  | _ => none

/-- The two integers of a fixed-form signature. -/
def fixedPair (sig : List UInt8) : Option (List UInt8 × List UInt8) :=
  if sig.length = 64 then some (sig.take 32, sig.drop 32) else none

/-- A scalar in `[1, n)` read from at most 32 big-endian bytes. -/
def scalar? (bs : List UInt8) : Option Nat :=
  let v := ofBigEndian bs
  if bs.length ≤ 32 ∧ 0 < v ∧ v < groupOrder then some v else none

/-- Whether `(r, s)` is a signature of `msg` under the key point `Q`. -/
def holds (Q : Point) (msg : List UInt8) (r s : Nat) : Bool :=
  let n := groupOrder
  let e := ofBigEndian (Sha256.digest msg) % n
  let w := powMod s (n - 2) n
  let X := (basePoint.mul (e * w % n)).add (Q.mul (r * w % n))
  X.z ≠ 0 && X.affineX % n == r

/-- Verification with a given reader of the signature's two integers. -/
def verifyWith (pair : List UInt8 → Option (List UInt8 × List UInt8))
    (pk msg sig : List UInt8) : Bool :=
  match decodePublicKey pk, pair sig with
  | some Q, some (rb, sb) =>
    match scalar? rb, scalar? sb with
    | some r, some s => holds Q msg r s
    | _, _ => false
  | _, _ => false

end KeyCustody.P256
