/-!
# Lowercase hexadecimal

A byte is written as two lowercase hexadecimal digits, the high nibble first. Reading is the
inverse on texts of even length made of `0-9`, `a-f` and `A-F`.
-/

namespace KeyCustody.Hex

/-- The digit of a nibble, `0`–`9` then `a`–`f`. -/
def digit (n : Nat) : Char :=
  if n < 10 then Char.ofNat (48 + n) else Char.ofNat (87 + n)

/-- The two digits of a byte. -/
def byteDigits (b : UInt8) : List Char :=
  [digit (b.toNat / 16), digit (b.toNat % 16)]

/-- The hexadecimal text of a byte sequence. -/
def encode (bytes : List UInt8) : String :=
  String.ofList (bytes.flatMap byteDigits)

/-- Why a text is not hexadecimal. -/
inductive DecodeError where
  | oddLength
  | badDigit (c : Char)
  deriving DecidableEq, Repr

/-- The value of one digit, upper or lower case. -/
def digitValue? (c : Char) : Option Nat :=
  if '0' ≤ c ∧ c ≤ '9' then some (c.toNat - 48)
  else if 'a' ≤ c ∧ c ≤ 'f' then some (c.toNat - 87)
  else if 'A' ≤ c ∧ c ≤ 'F' then some (c.toNat - 55)
  else none

/-- Reads digit pairs into bytes. -/
def decodeChars : List Char → Except DecodeError (List UInt8)
  | [] => .ok []
  | [_] => .error .oddLength
  | hi :: lo :: rest =>
    match digitValue? hi, digitValue? lo with
    | some h, some l => do
      let tail ← decodeChars rest
      return (h * 16 + l).toUInt8 :: tail
    | none, _ => .error (.badDigit hi)
    | _, none => .error (.badDigit lo)

/-- Reads a hexadecimal text; a text of odd length is refused before any digit is looked at. -/
def decode (s : String) : Except DecodeError (List UInt8) :=
  if s.length % 2 = 1 then .error .oddLength else decodeChars s.toList

/-- Every byte is written with two digits. -/
theorem byteDigits_length (b : UInt8) : (byteDigits b).length = 2 := rfl

end KeyCustody.Hex
