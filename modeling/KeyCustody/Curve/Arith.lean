/-!
# Integers as bytes, and modular powers

Natural numbers read from and written to byte strings in either byte order, and `b^e mod m` by
repeated squaring.
-/

namespace KeyCustody.Arith

/-- The number whose little-endian bytes are `bs`. -/
def ofLittleEndian (bs : List UInt8) : Nat :=
  bs.foldr (fun b acc => acc * 256 + b.toNat) 0

/-- The number whose big-endian bytes are `bs`. -/
def ofBigEndian (bs : List UInt8) : Nat :=
  bs.foldl (fun acc b => acc * 256 + b.toNat) 0

/-- The `len` little-endian bytes of `n` modulo `256^len`. -/
def toLittleEndian (n len : Nat) : List UInt8 :=
  (List.range len).map fun i => (n / Nat.pow 256 i % 256).toUInt8

/-- `b^e mod m`. -/
def powMod (b e m : Nat) : Nat :=
  if e = 0 then 1 % m
  else
    let h := powMod b (e / 2) m
    let h2 := h * h % m
    if e % 2 = 0 then h2 else h2 * b % m
termination_by e
decreasing_by omega

/-- `a - b mod m` for `b < m`. -/
def subMod (a b m : Nat) : Nat := (a + m - b) % m

end KeyCustody.Arith
