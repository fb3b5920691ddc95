import KeyCustody.Json.Error

/-!
# Reading position

A reader walks the UTF-8 bytes of a text with a cursor. The place of a byte index is its line,
one more than the line feeds before it, and its column, the number of bytes since the last line
feed before it. A problem found *at* the cursor is placed at the cursor; a problem found by
*peeking* at the next byte is placed one byte further, but never past the end.

Reading runs in `Parse`: a failure keeps the cursor where it happened, so a caller can still
read on (as when a value's closing bracket is consumed after its content failed) and then place
an unplaced problem at the cursor.
-/

namespace KeyCustody.Json

/-- The text being read and the index of the next byte. -/
structure Cursor where
  bytes : ByteArray
  index : Nat

/-- A reading step: it may fail, and the cursor keeps its place either way. -/
abbrev Parse := ExceptT Error (StateM Cursor)

/-- The place of a byte index. -/
def placeOf (bytes : ByteArray) (i : Nat) : Place :=
  (bytes.extract 0 i).toList.foldl
    (fun p b => if b = 10 then ⟨p.line + 1, 0⟩ else ⟨p.line, p.column + 1⟩) ⟨1, 0⟩

/-- The byte under the cursor, if any. -/
def peek? : Parse (Option UInt8) := do
  let c ← get
  return c.bytes[c.index]?

/-- The byte under the cursor, or NUL at the end. -/
def peekOrNull : Parse UInt8 := do
  return (← peek?).getD 0

/-- Moves past one byte. -/
def eat : Parse Unit :=
  modify fun c => { c with index := c.index + 1 }

/-- Takes the byte under the cursor. -/
def next? : Parse (Option UInt8) := do
  let b ← peek?
  if b.isSome then eat
  return b

/-- Takes the byte under the cursor, or gives NUL at the end without moving. -/
def nextOrNull : Parse UInt8 := do
  return (← next?).getD 0

/-- Fails with a problem placed at the cursor. -/
def fail {α : Type} (p : Problem) : Parse α := do
  let c ← get
  throw ⟨p, some (placeOf c.bytes c.index)⟩

/-- Fails with a problem placed one byte past the cursor, or at the end. -/
def failAhead {α : Type} (p : Problem) : Parse α := do
  let c ← get
  throw ⟨p, some (placeOf c.bytes (min (c.index + 1) c.bytes.size))⟩

/-- Fails with a problem whose place is not known yet. -/
def failData {α : Type} (p : Problem) : Parse α :=
  throw ⟨p, none⟩

/-- Places an unplaced error at the cursor. -/
def placed (e : Error) : Parse Error := do
  match e.place with
  | some _ => return e
  | none =>
    let c ← get
    return { e with place := some (placeOf c.bytes c.index) }

/-- Runs a step and returns its outcome instead of failing; the cursor stays where the step left it. -/
def attempt {α : Type} (p : Parse α) : Parse (Except Error α) :=
  ExceptT.lift p.run

/-- Runs a step and places an error that comes out of it unplaced at the cursor. -/
def placing {α : Type} (p : Parse α) : Parse α := do
  match ← attempt p with
  | .ok v => return v
  | .error e => throw (← placed e)

/-- Skips blanks (space, line feed, tab, carriage return) and peeks at the next byte. -/
def skipBlanks (fuel : Nat) : Parse (Option UInt8) := do
  match fuel with
  | 0 => peek?
  | fuel + 1 =>
    match ← peek? with
    | some b =>
      if b = 32 || b = 10 || b = 9 || b = 13 then
        eat
        skipBlanks fuel
      else return some b
    | none => return none

/-- Enough steps for any loop over the remaining bytes. -/
def budget : Parse Nat := do
  let c ← get
  return c.bytes.size - c.index + 1

/-- Skips blanks and peeks at the next byte. -/
def blanks : Parse (Option UInt8) := do
  skipBlanks (← budget)

/-- Runs a reading step over a whole text. -/
def Parse.run' {α : Type} (p : Parse α) (text : String) : Except Error α :=
  (p.run.run ⟨text.toUTF8, 0⟩).1

end KeyCustody.Json
