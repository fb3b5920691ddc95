import KeyCustody.Json.Scalar

/-!
# Reading typed values

Reading a value of a known type from JSON text. Each reader looks at the next byte: a value of
the wanted shape is read, anything else is consumed far enough to be named (a literal, a number,
a whole string, or just the opening bracket) and refused with `invalid type`. A problem raised
by the value itself, rather than by the grammar, is placed where the reader of the enclosing
value stops, which is past the closing bracket of a list or an object.

A list or an object is read element by element; its closing bracket is looked for even after an
element failed, but the first failure is the one reported.
-/

namespace KeyCustody.Json

/-- Names the value at the cursor for an `invalid type` message, consuming it. -/
def unexpectedHere : Parse Unexpected := do
  let b ← peekOrNull
  if b = 110 then do eat; ident [117, 108, 108]; return .null
  else if b = 116 then do eat; ident [114, 117, 101]; return .bool true
  else if b = 102 then do eat; ident [97, 108, 115, 101]; return .bool false
  else if b = 45 then do eat; return ofNumber (← number false)
  else if isDigit b then return ofNumber (← number true)
  else if b = 34 then do eat; return .string (← stringBody)
  else if b = 91 then return .sequence
  else if b = 123 then return .map
  else failAhead .expectedSomeValue
where
  ofNumber : Number → Unexpected
    | .unsigned n => .unsigned n
    | .signed i => .signed i
    | .float x => .float x

/-- Refuses the value at the cursor as not being `expected`. -/
def invalidTypeHere {α : Type} (expected : String) : Parse α := do
  let found ← unexpectedHere
  throw (← placed ⟨.invalidType found expected, none⟩)

/-- The next byte after blanks; the end of the text is refused as a missing value. -/
def valueStart : Parse UInt8 := do
  match ← blanks with
  | some b => return b
  | none => failAhead .eofWhileParsingValue

/-- The first failure of a body and the closing step after it. -/
def firstFailure {α : Type} : Except Error α → Except Error Unit → Parse α
  | .ok v, .ok () => return v
  | .error e, _ => throw e
  | .ok _, .error e => throw e

/-- A natural number that fits an unsigned 64-bit word, named `expected` in messages. -/
def readWord (expected : String) : Parse Nat := placing do
  let b ← valueStart
  if b = 45 then do eat; visit (← number false)
  else if isDigit b then visit (← number true)
  else invalidTypeHere expected
where
  visit : Number → Parse Nat
    | .unsigned n => return n
    | .signed i => failData (.invalidValue (.signed i) expected)
    | .float x => failData (.invalidType (.float x) expected)

/-- `true` or `false`. -/
def readBool : Parse Bool := placing do
  let b ← valueStart
  if b = 116 then do eat; ident [114, 117, 101]; return true
  else if b = 102 then do eat; ident [97, 108, 115, 101]; return false
  else invalidTypeHere "a boolean"

/-- `null`. -/
def readNull : Parse Unit := placing do
  let b ← valueStart
  if b = 110 then do eat; ident [117, 108, 108]
  else invalidTypeHere "unit"

/-- A string, checked by `accept`; `expected` names what is wanted. -/
def readString {α : Type} (expected : String) (accept : String → Except Problem α) : Parse α :=
  placing do
    let b ← valueStart
    if b = 34 then
      eat
      let s ← stringBody
      match accept s with
      | .ok v => return v
      | .error p => failData p
    else invalidTypeHere expected

/-- Any string. -/
def readText : Parse String := readString "a string" .ok

/-- Closes a list: the closing bracket, or a problem with what stands there. -/
def closeList : Parse Unit := do
  match ← blanks with
  | some 93 => eat
  | some 44 =>
    eat
    match ← blanks with
    | some 93 => failAhead .trailingComma
    | _ => failAhead .trailingCharacters
  | some _ => failAhead .trailingCharacters
  | none => failAhead .eofWhileParsingList

/-- Closes an object: the closing brace, or a problem with what stands there. -/
def closeObject : Parse Unit := do
  match ← blanks with
  | some 125 => eat
  | some 44 => failAhead .trailingComma
  | some _ => failAhead .trailingCharacters
  | none => failAhead .eofWhileParsingObject

/-- Moves to the next element of a list, if there is one. -/
def nextElement (first : Bool) : Parse Bool := do
  let b ← match ← blanks with
    | some 93 => return false
    | some 44 =>
      if first then pure (some 44)
      else do eat; blanks
    | some b => if first then pure (some b) else failAhead .expectedListCommaOrEnd
    | none => failAhead .eofWhileParsingList
  match b with
  | some 93 => failAhead .trailingComma
  | some _ => return true
  | none => failAhead .eofWhileParsingValue

/-- Reads the elements of a list up to its closing bracket. -/
def listElements {α : Type} (elem : Parse α) (fuel : Nat) (first : Bool) (acc : Array α) :
    Parse (List α) := do
  match fuel with
  | 0 => return acc.toList
  | fuel + 1 =>
    if ← nextElement first then listElements elem fuel false (acc.push (← elem))
    else return acc.toList

/-- Reads the next element of a list, if there is one. -/
def element? {α : Type} (elem : Parse α) (first : Bool) : Parse (Option α) := do
  if ← nextElement first then return some (← elem) else return none

/-- A list of values. -/
def readList {α : Type} (elem : Parse α) : Parse (List α) := placing do
  let b ← valueStart
  if b = 91 then
    eat
    let body ← attempt (do listElements elem (← budget) true #[])
    firstFailure body (← attempt closeList)
  else invalidTypeHere "a sequence"

/-- Moves to the next key of an object and reads it, if there is one. -/
def nextKey (first : Bool) : Parse (Option String) := do
  let b ← match ← blanks with
    | some 125 => return none
    | some 44 =>
      if first then pure (some 44)
      else do eat; blanks
    | some b => if first then pure (some b) else failAhead .expectedObjectCommaOrEnd
    | none => failAhead .eofWhileParsingObject
  match b with
  | some 34 => do eat; return some (← stringBody)
  | some 125 => failAhead .trailingComma
  | some _ => failAhead .keyMustBeAString
  | none => failAhead .eofWhileParsingValue

/-- The colon between a key and its value. -/
def colon : Parse Unit := do
  match ← blanks with
  | some 58 => eat
  | some _ => failAhead .expectedColon
  | none => failAhead .eofWhileParsingObject

/-- Reads the entries of an object, handing each key to `entry`, which reads the colon and value. -/
def objectEntries {σ : Type} (entry : String → σ → Parse σ) (fuel : Nat) (first : Bool) (acc : σ) :
    Parse σ := do
  match fuel with
  | 0 => return acc
  | fuel + 1 =>
    match ← nextKey first with
    | none => return acc
    | some key => objectEntries entry fuel false (← entry key acc)

/-- A record, written either as a list of its fields in order or as an object of named fields. -/
def readRecord {α : Type} (expected : String) (asList : Parse α) (asObject : Parse α) : Parse α :=
  placing do
    let b ← valueStart
    if b = 91 then
      eat
      let body ← attempt asList
      firstFailure body (← attempt closeList)
    else if b = 123 then
      eat
      let body ← attempt asObject
      firstFailure body (← attempt closeObject)
    else invalidTypeHere expected

/-- A field's value the first time the field is seen; a second time is refused. -/
def fieldOnce {α : Type} (name : String) (seen : Option α) (value : Parse α) : Parse α := do
  match seen with
  | some _ => failData (.duplicateField name)
  | none => do colon; value

/-- The variant of `all` named `s`, or the problem of an unknown name. -/
def variantNamed {α : Type} (all : List α) (name : α → String) (s : String) : Except Problem α :=
  match all.find? (name · = s) with
  | some v => .ok v
  | none => .error (.unknownVariant s (all.map name))

/-- One of the named variants, written as its name, or as an object whose one key is the name and
whose value is `null`. -/
def readVariant {α : Type} (all : List α) (name : α → String) : Parse α := do
  match ← blanks with
  | some 123 =>
    eat
    let v ← identifier
    colon
    readNull
    match ← blanks with
    | some 125 => do eat; return v
    | some _ => fail .expectedSomeValue
    | none => fail .eofWhileParsingObject
  | some 34 => identifier
  | some _ => failAhead .expectedSomeValue
  | none => failAhead .eofWhileParsingValue
where
  identifier : Parse α :=
    readString "variant identifier" (variantNamed all name)

/-- Reads a whole text as one value; only blanks may follow it. -/
def readAll {α : Type} (p : Parse α) (text : String) : Except Error α :=
  Parse.run' (do
    let v ← p
    match ← blanks with
    | some _ => failAhead .trailingCharacters
    | none => return v) text

end KeyCustody.Json
