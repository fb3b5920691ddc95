import KeyCustody.Json.Cursor
import KeyCustody.Decimal.Binary

/-!
# Strings, numbers and skipped values

The lexical layer of the reader.

* A string runs to the next unescaped quote. A control character (below `0x20`) in it is refused
  after it is consumed. The escapes are `\" \\ \/ \b \f \n \r \t` and `\uXXXX`; a leading
  surrogate must be followed by an escaped trailing one, and a trailing surrogate alone is refused.
* A number has no leading zeros. Digits are gathered into an unsigned 64-bit significand; when
  the next digit would overflow it, the remaining integer digits only raise the decimal exponent
  and further fraction digits are dropped. A number with a point or an exponent, or too large
  for the significand, is a binary64 value: the significand is rounded, then multiplied or
  divided by the nearest binary64 value of `10^|k|` (by `10^308` steps beyond that), and an
  infinite product is refused as out of range. A negative integer is signed when it fits,
  and `-0` is the binary64 negative zero.
* A value that is not wanted is skipped with the same grammar, bracket by bracket.
-/

namespace KeyCustody.Json

/-- Whether a byte is an ASCII digit. -/
def isDigit (b : UInt8) : Bool := 48 ≤ b && b ≤ 57

/-- Consumes the bytes of `word`, refusing the first one that differs. -/
def ident : List UInt8 → Parse Unit
  | [] => return
  | w :: rest => do
    match ← next? with
    | none => fail .eofWhileParsingValue
    | some b => if b = w then ident rest else fail .expectedSomeIdent

/-- The value of a hexadecimal digit. -/
def hexValue (b : UInt8) : Option Nat :=
  if 48 ≤ b && b ≤ 57 then some (b.toNat - 48)
  else if 97 ≤ b && b ≤ 102 then some (b.toNat - 87)
  else if 65 ≤ b && b ≤ 70 then some (b.toNat - 55)
  else none

/-- Reads the four hexadecimal digits of a `\u` escape. -/
def hexQuad : Parse Nat := do
  let c ← get
  if c.index + 4 ≤ c.bytes.size then
    let ds := (List.range 4).map fun i => c.bytes.get! (c.index + i)
    set { c with index := c.index + 4 }
    match ds.mapM hexValue with
    | some vs => return vs.foldl (fun acc v => acc * 16 + v) 0
    | none => fail .invalidEscape
  else
    set { c with index := c.bytes.size }
    fail .eofWhileParsingString

/-- Appends the UTF-8 bytes of a code point. -/
def pushCodePoint (acc : Array UInt8) (n : Nat) : Array UInt8 :=
  acc ++ (String.singleton (Char.ofNat n)).toUTF8.toList.toArray

/-- The byte under the cursor inside a string; the end of the text is an unterminated string. -/
def peekInString : Parse UInt8 := do
  match ← peek? with
  | some b => return b
  | none => fail .eofWhileParsingString

/-- Reads a `\u` escape, pairing surrogates. -/
def unicodeEscape (acc : Array UInt8) : Parse (Array UInt8) := do
  let n ← hexQuad
  if 0xDC00 ≤ n ∧ n ≤ 0xDFFF then fail .loneLeadingSurrogate
  else if n < 0xD800 ∨ n > 0xDBFF then return pushCodePoint acc n
  else
    if (← peekInString) = 92 then eat else do eat; fail .unexpectedEndOfHexEscape
    if (← peekInString) = 117 then eat else do eat; fail .unexpectedEndOfHexEscape
    let n2 ← hexQuad
    if n2 < 0xDC00 ∨ n2 > 0xDFFF then fail .loneLeadingSurrogate
    else return pushCodePoint acc (0x10000 + (n - 0xD800) * 1024 + (n2 - 0xDC00))

/-- Reads the escape after a backslash. -/
def escape (acc : Array UInt8) : Parse (Array UInt8) := do
  match ← next? with
  | none => fail .eofWhileParsingString
  | some c =>
    if c = 34 then return acc.push 34
    else if c = 92 then return acc.push 92
    else if c = 47 then return acc.push 47
    else if c = 98 then return acc.push 8
    else if c = 102 then return acc.push 12
    else if c = 110 then return acc.push 10
    else if c = 114 then return acc.push 13
    else if c = 116 then return acc.push 9
    else if c = 117 then unicodeEscape acc
    else fail .invalidEscape

/-- Reads string bytes up to the closing quote. -/
def stringBytes (fuel : Nat) (acc : Array UInt8) : Parse (Array UInt8) := do
  match fuel with
  | 0 => fail .eofWhileParsingString
  | fuel + 1 =>
    match ← peek? with
    | none => fail .eofWhileParsingString
    | some b =>
      if b = 34 then do eat; return acc
      else if b = 92 then do eat; stringBytes fuel (← escape acc)
      else if b < 32 then do eat; fail .controlCharacterInString
      else do eat; stringBytes fuel (acc.push b)

/-- Reads the rest of a string whose opening quote has been consumed. -/
def stringBody : Parse String := do
  let bytes ← stringBytes (← budget) #[]
  return (String.fromUTF8? ⟨bytes⟩).getD ""

/-- Skips the escape after a backslash. -/
def skipEscape : Parse Unit := do
  match ← next? with
  | none => fail .eofWhileParsingString
  | some c =>
    if c = 117 then do let _ ← hexQuad
    else if [34, 92, 47, 98, 102, 110, 114, 116].contains c then return
    else fail .invalidEscape

/-- Skips string bytes up to the closing quote. -/
def skipStringBytes (fuel : Nat) : Parse Unit := do
  match fuel with
  | 0 => fail .eofWhileParsingString
  | fuel + 1 =>
    match ← peek? with
    | none => fail .eofWhileParsingString
    | some b =>
      if b = 34 then eat
      else if b = 92 then do eat; skipEscape; skipStringBytes fuel
      else if b < 32 then fail .controlCharacterInString
      else do eat; skipStringBytes fuel

/-- Skips the rest of a string whose opening quote has been consumed. -/
def skipString : Parse Unit := do
  skipStringBytes (← budget)

/-- A number as read: unsigned, negative and fitting a signed 64-bit word, or binary64. -/
inductive Number where
  | unsigned (n : Nat)
  | signed (i : Int)
  | float (x : Float)

/-- The unsigned 64-bit bound on significands. -/
def wordMax : Nat := Nat.pow 2 64 - 1

/-- Whether `sig * 10 + d` exceeds `bound`. -/
def overflows (sig d bound : Nat) : Bool :=
  sig ≥ bound / 10 && (sig > bound / 10 || d > bound % 10)

/-- The largest signed 32-bit exponent. -/
def exponentMax : Nat := Nat.pow 2 31 - 1

/-- Clamps an exponent to the signed 32-bit range. -/
def clampExponent (e : Int) : Int :=
  max (-Int.pow 2 31) (min e (Int.pow 2 31 - 1))

/-- `significand · 10^exponent` as binary64, the sign applied last. -/
def fromParts (positive : Bool) (significand : Nat) (exponent : Int) : Parse Float := do
  let rec go : Nat → Float → Int → Parse Float
    | 0, f, _ => return f
    | fuel + 1, f, e =>
      if e.natAbs ≤ 308 then
        if e ≥ 0 then
          let g := f * Binary64.pow10 e.natAbs
          if g.isInf then fail .numberOutOfRange else return g
        else return f / Binary64.pow10 e.natAbs
      else if f == 0 then return f
      else if e ≥ 0 then fail .numberOutOfRange
      else go fuel (f / Binary64.pow10 308) (e + 308)
  let f ← go 8 (Binary64.ofNat significand) exponent
  return if positive then f else -f

/-- Skips digits. -/
def skipDigits (fuel : Nat) : Parse Unit := do
  match fuel with
  | 0 => return
  | fuel + 1 => if isDigit (← peekOrNull) then do eat; skipDigits fuel else return

/-- Skips the rest of an exponent that no longer fits; zero unless it is positive on a non-zero significand. -/
def exponentOverflow (positive zeroSignificand positiveExp : Bool) : Parse Float := do
  if !zeroSignificand && positiveExp then fail .numberOutOfRange
  else
    skipDigits (← budget)
    return if positive then 0.0 else -0.0

/-- Reads the exponent digits after the first. -/
def exponentDigits (fuel : Nat) (positive : Bool) (significand : Nat) (positiveExp : Bool)
    (exp : Nat) : Parse (Sum Float Nat) := do
  match fuel with
  | 0 => return .inr exp
  | fuel + 1 =>
    let c ← peekOrNull
    if isDigit c then
      eat
      let d := c.toNat - 48
      if overflows exp d exponentMax then
        return .inl (← exponentOverflow positive (significand = 0) positiveExp)
      else exponentDigits fuel positive significand positiveExp (exp * 10 + d)
    else return .inr exp

/-- Reads an exponent, at the `e`, and makes the value. -/
def exponentPart (positive : Bool) (significand : Nat) (start : Int) : Parse Float := do
  eat
  let c ← peekOrNull
  let positiveExp ← if c = 43 then do eat; pure true else if c = 45 then do eat; pure false else pure true
  match ← next? with
  | none => fail .eofWhileParsingValue
  | some first =>
    if !isDigit first then fail .invalidNumber
    else
      match ← exponentDigits (← budget) positive significand positiveExp (first.toNat - 48) with
      | .inl f => return f
      | .inr exp =>
        let final := clampExponent (if positiveExp then start + exp else start - exp)
        fromParts positive significand final

/-- Drops the fraction digits that no longer fit and makes the value. -/
def fractionOverflow (positive : Bool) (significand : Nat) (exponent : Int) : Parse Float := do
  skipDigits (← budget)
  let c ← peekOrNull
  if c = 101 || c = 69 then exponentPart positive significand exponent
  else fromParts positive significand exponent

/-- Reads fraction digits. -/
def fractionDigits (fuel : Nat) (positive : Bool) (significand : Nat) (before : Int) (after : Nat) :
    Parse (Sum Float (Nat × Nat)) := do
  match fuel with
  | 0 => return .inr (significand, after)
  | fuel + 1 =>
    let c ← peekOrNull
    if isDigit c then
      let d := c.toNat - 48
      if overflows significand d wordMax then
        return .inl (← fractionOverflow positive significand (before - after))
      else do
        eat
        fractionDigits fuel positive (significand * 10 + d) before (after + 1)
    else return .inr (significand, after)

/-- Reads a fraction, at the point, and makes the value. -/
def fractionPart (positive : Bool) (significand : Nat) (before : Int) : Parse Float := do
  eat
  match ← fractionDigits (← budget) positive significand before 0 with
  | .inl f => return f
  | .inr (significand, after) =>
    if after = 0 then
      match ← peek? with
      | some _ => failAhead .invalidNumber
      | none => failAhead .eofWhileParsingValue
    else
      let exponent := before - after
      let c ← peekOrNull
      if c = 101 || c = 69 then exponentPart positive significand exponent
      else fromParts positive significand exponent

/-- Reads the integer digits past the significand's capacity, each raising the exponent. -/
def longInteger (fuel : Nat) (positive : Bool) (significand : Nat) (exponent : Nat) : Parse Float := do
  match fuel with
  | 0 => fromParts positive significand exponent
  | fuel + 1 =>
    let c ← peekOrNull
    if isDigit c then do eat; longInteger fuel positive significand (exponent + 1)
    else if c = 46 then fractionPart positive significand exponent
    else if c = 101 || c = 69 then exponentPart positive significand exponent
    else fromParts positive significand exponent

/-- What follows the integer digits: a fraction, an exponent, or the end of the number. -/
def numberTail (positive : Bool) (significand : Nat) : Parse Number := do
  let c ← peekOrNull
  if c = 46 then return .float (← fractionPart positive significand 0)
  else if c = 101 || c = 69 then return .float (← exponentPart positive significand 0)
  else if positive then return .unsigned significand
  else if significand = 0 then return .float (-0.0)
  else if significand ≤ Nat.pow 2 63 then return .signed (-(significand : Int))
  else return .float (-(Binary64.ofNat significand))

/-- Reads integer digits into the significand. -/
def integerDigits (fuel : Nat) (positive : Bool) (significand : Nat) : Parse Number := do
  match fuel with
  | 0 => numberTail positive significand
  | fuel + 1 =>
    let c ← peekOrNull
    if isDigit c then
      let d := c.toNat - 48
      if overflows significand d wordMax then
        return .float (← longInteger (← budget) positive significand 0)
      else do
        eat
        integerDigits fuel positive (significand * 10 + d)
    else numberTail positive significand

/-- Reads a number after its sign. -/
def number (positive : Bool) : Parse Number := do
  match ← next? with
  | none => fail .eofWhileParsingValue
  | some c =>
    if c = 48 then
      if isDigit (← peekOrNull) then failAhead .invalidNumber else numberTail positive 0
    else if isDigit c then integerDigits (← budget) positive (c.toNat - 48)
    else fail .invalidNumber

/-- Skips an exponent, at the `e`. -/
def skipExponent : Parse Unit := do
  eat
  let c ← peekOrNull
  if c = 43 || c = 45 then eat
  if isDigit (← nextOrNull) then skipDigits (← budget) else fail .invalidNumber

/-- Skips a number after its sign. -/
def skipNumber : Parse Unit := do
  let c ← nextOrNull
  if c = 48 then
    if isDigit (← peekOrNull) then failAhead .invalidNumber
  else if isDigit c then skipDigits (← budget)
  else fail .invalidNumber
  let c ← peekOrNull
  if c = 46 then
    eat
    let c ← get
    skipDigits (← budget)
    if (← get).index = c.index then failAhead .invalidNumber
    let e ← peekOrNull
    if e = 101 || e = 69 then skipExponent
  else if c = 101 || c = 69 then skipExponent

/-- Closes brackets after a skipped value; the frame to go on in, if the value is not complete. -/
def closeFrames (fuel : Nat) (frame : UInt8) (acceptComma : Bool) (stack : List UInt8) :
    Parse (Option (UInt8 × List UInt8)) := do
  match fuel with
  | 0 => return none
  | fuel + 1 =>
    match ← blanks with
    | none => failAhead (if frame = 91 then .eofWhileParsingList else .eofWhileParsingObject)
    | some b =>
      if b = 44 && acceptComma then do eat; return some (frame, stack)
      else if (b = 93 && frame = 91) || (b = 125 && frame = 123) then
        eat
        match stack with
        | [] => return none
        | f :: rest => closeFrames fuel f true rest
      else if acceptComma then
        failAhead (if frame = 91 then .expectedListCommaOrEnd else .expectedObjectCommaOrEnd)
      else return some (frame, stack)

/-- Skips one value, nested brackets included. -/
def skipLoop (fuel : Nat) (enclosing : Option UInt8) (stack : List UInt8) : Parse Unit := do
  match fuel with
  | 0 => return
  | fuel + 1 =>
    let some b ← blanks | failAhead .eofWhileParsingValue
    let opened : Option UInt8 ← do
      if b = 110 then do eat; ident [117, 108, 108]; pure none
      else if b = 116 then do eat; ident [114, 117, 101]; pure none
      else if b = 102 then do eat; ident [97, 108, 115, 101]; pure none
      else if b = 45 then do eat; skipNumber; pure none
      else if isDigit b then do skipNumber; pure none
      else if b = 34 then do eat; skipString; pure none
      else if b = 91 || b = 123 then do eat; pure (some b)
      else failAhead .expectedSomeValue
    let stack := match opened with
      | some _ => enclosing.toList ++ stack
      | none => stack
    let resume ← match opened, enclosing with
      | some f, _ => closeFrames (← budget) f false stack
      | none, some f => closeFrames (← budget) f true stack
      | none, none =>
        match stack with
        | [] => pure none
        | f :: rest => closeFrames (← budget) f true rest
    match resume with
    | none => return
    | some (frame, stack) =>
      if frame = 123 then
        match ← blanks with
        | some 34 => eat
        | some _ => failAhead .keyMustBeAString
        | none => failAhead .eofWhileParsingObject
        skipString
        match ← blanks with
        | some 58 => eat
        | some _ => failAhead .expectedColon
        | none => failAhead .eofWhileParsingObject
      skipLoop fuel (some frame) stack

/-- Skips one value. -/
def skipValue : Parse Unit := do
  skipLoop (← budget) none []

end KeyCustody.Json
