import KeyCustody.Curve.Arith
import KeyCustody.Hash.Sha512

/-!
# Ed25519

Signatures on the twisted Edwards curve `-x² + y² = 1 + d·x²·y²` over the field of
`p = 2^255 - 19`, with the base point of order `ℓ = 2^252 + 27742317777372353535851937790883648493`
(RFC 8032). Points are kept in extended coordinates `(X : Y : Z : T)` with `x = X/Z`, `y = Y/Z`,
`x·y = T/Z`, and added by the unified formula, which also doubles.

* A point is encoded as `y` in 32 little-endian bytes with the low bit of `x` in the top bit.
  Decoding reads `y` from the low 255 bits without requiring `y < p`, recovers `x` from the
  curve equation, refuses a `y` with no `x`, and takes the `x` whose low bit is the top bit given
  (so `x = 0` is accepted with either top bit).
* Signing from a 32-byte seed `k`: `h = SHA-512(k)`, the scalar `a` is the first half of `h` with
  its three low bits and its top bit cleared and bit 254 set, `r = SHA-512(h[32..] ‖ M) mod ℓ`,
  `R = [r]B`, `S = (r + SHA-512(R ‖ A ‖ M) · a) mod ℓ`, where `A = [a]B` is the public key.
* Verification accepts exactly a 64-byte signature `R ‖ S` with `S < ℓ` and a decodable public
  key `A` such that `[S]B - [SHA-512(R ‖ A ‖ M) mod ℓ]A` encodes to the bytes of `R`.
-/

namespace KeyCustody.Ed25519

open Arith

/-- The field prime. -/
def fieldPrime : Nat := Nat.pow 2 255 - 19

/-- The order of the base point. -/
def groupOrder : Nat := Nat.pow 2 252 + 27742317777372353535851937790883648493

/-- The curve constant `d = -121665 / 121666`. -/
def curveD : Nat := 37095705934669439343138083508754565189542113879843219016388785533085940283555

/-- A square root of `-1`. -/
def sqrtMinusOne : Nat :=
  19681161376707505956807079304988542015446066515923890162744021073123829784752

/-- A point in extended coordinates. -/
structure Point where
  x : Nat
  y : Nat
  z : Nat
  t : Nat

/-- The neutral point. -/
def Point.zero : Point := ⟨0, 1, 1, 0⟩

/-- The base point. -/
def basePoint : Point :=
  let x := 15112221349535400772501151409588531511454012693041857206046113283949847762202
  let y := 46316835694926478169428394003475163141307993866256225615783033603165251855960
  ⟨x, y, 1, x * y % fieldPrime⟩

/-- Sum of two points. -/
def Point.add (P Q : Point) : Point :=
  let q := fieldPrime
  let a := subMod P.y P.x q * subMod Q.y Q.x q % q
  let b := (P.y + P.x) * (Q.y + Q.x) % q
  let c := P.t * 2 * curveD % q * Q.t % q
  let d := P.z * 2 * Q.z % q
  let e := subMod b a q
  let f := subMod d c q
  let g := (d + c) % q
  let h := (b + a) % q
  ⟨e * f % q, g * h % q, f * g % q, e * h % q⟩

/-- The opposite point. -/
def Point.neg (P : Point) : Point :=
  ⟨subMod 0 P.x fieldPrime, P.y, P.z, subMod 0 P.t fieldPrime⟩

/-- `[k]P`, by doubling and adding from the top bit down. -/
def Point.mul (k : Nat) (P : Point) : Point :=
  if k = 0 then Point.zero
  else
    let half := Point.mul (k / 2) P
    let double := half.add half
    if k % 2 = 0 then double else double.add P
termination_by k
decreasing_by omega

/-- The inverse in the field. -/
def inv (x : Nat) : Nat := powMod x (fieldPrime - 2) fieldPrime

/-- The 32-byte encoding of a point. -/
def Point.encode (P : Point) : List UInt8 :=
  let zi := inv P.z
  let x := P.x * zi % fieldPrime
  let y := P.y * zi % fieldPrime
  toLittleEndian (y + (x % 2) * Nat.pow 2 255) 32

/-- The point encoded by 32 bytes, if there is one. -/
def decode (bs : List UInt8) : Option Point :=
  let q := fieldPrime
  let n := ofLittleEndian bs
  let sign := n / Nat.pow 2 255 % 2
  let y := n % Nat.pow 2 255 % q
  let yy := y * y % q
  let u := subMod yy 1 q
  let v := (curveD * yy + 1) % q
  let v3 := v * v % q * v % q
  let v7 := v3 * v3 % q * v % q
  let x := u * v3 % q * powMod (u * v7 % q) ((q - 5) / 8) q % q
  let check := v * (x * x % q) % q
  let x? :=
    if check = u then some x
    else if check = subMod 0 u q then some (x * sqrtMinusOne % q)
    else none
  x?.map fun x =>
    let x := if x % 2 = sign then x else subMod 0 x q
    ⟨x, y, 1, x * y % q⟩

/-- The scalar of a seed's hash: the first half, clamped. -/
def clamp (h : List UInt8) : Nat :=
  let a := ofLittleEndian (h.take 32)
  a - a % 8 - (a / Nat.pow 2 255 % 2) * Nat.pow 2 255 +
    (if a / Nat.pow 2 254 % 2 = 1 then 0 else Nat.pow 2 254)

/-- The public key of a seed. -/
def publicKey (seed : List UInt8) : List UInt8 :=
  (basePoint.mul (clamp (Sha512.digest seed))).encode

/-- A hash reduced to a scalar. -/
def hashScalar (bs : List UInt8) : Nat := ofLittleEndian (Sha512.digest bs) % groupOrder

/-- The 64-byte signature of `msg` under `seed`. -/
def sign (seed msg : List UInt8) : List UInt8 :=
  let h := Sha512.digest seed
  let a := clamp h
  let pk := (basePoint.mul a).encode
  let r := hashScalar (h.drop 32 ++ msg)
  let R := (basePoint.mul r).encode
  let k := hashScalar (R ++ pk ++ msg)
  R ++ toLittleEndian ((r + k * a) % groupOrder) 32

/-- Whether `sig` is a valid signature of `msg` under the 32-byte public key `pk`. -/
def verify (pk msg sig : List UInt8) : Bool :=
  if sig.length ≠ 64 then false
  else
    let R := sig.take 32
    let s := ofLittleEndian (sig.drop 32)
    if s ≥ groupOrder then false
    else
      match decode pk with
      | none => false
      | some A =>
        let k := hashScalar (R ++ pk ++ msg)
        ((basePoint.mul s).add (A.neg.mul k)).encode == R

end KeyCustody.Ed25519
