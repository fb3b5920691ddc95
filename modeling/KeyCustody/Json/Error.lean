import KeyCustody.Decimal.Shortest
import KeyCustody.Text.Quoted

/-!
# Reading errors

Why a JSON text was refused, and where. A *syntax* problem is found by the reader itself and is
always placed at a line and a column; a *data* problem is raised by the value being read (a
missing field, a value of the wrong type) and is placed where the enclosing value ends. Columns
count bytes from the start of the line, and a place is written `at line L column C` after the
problem.
-/

namespace KeyCustody.Json

/-- What a reader found where it expected something else. -/
inductive Unexpected where
  | bool (b : Bool)
  | unsigned (n : Nat)
  | signed (i : Int)
  | float (x : Float)
  | string (s : String)
  | null
  | sequence
  | map

/-- Floating-point values in messages: positional from `1e-5` to below `1e16`, otherwise with
an exponent that carries its sign. -/
def floatFormat : Decimal.Format := ⟨-5, 15, "+"⟩

/-- How an unexpected value is named in a message. -/
def Unexpected.describe : Unexpected → String
  | bool b => "boolean `" ++ toString b ++ "`"
  | unsigned n => "integer `" ++ toString n ++ "`"
  | signed i => "integer `" ++ toString i ++ "`"
  | float x => "floating point `" ++ Decimal.renderFloat floatFormat x ++ "`"
  | string s => "string " ++ Text.quote s
  | null => "null"
  | sequence => "sequence"
  | map => "map"

/-- Why a text was refused. -/
inductive Problem where
  | eofWhileParsingList
  | eofWhileParsingObject
  | eofWhileParsingString
  | eofWhileParsingValue
  | expectedColon
  | expectedListCommaOrEnd
  | expectedObjectCommaOrEnd
  | expectedSomeIdent
  | expectedSomeValue
  | invalidEscape
  | invalidNumber
  | numberOutOfRange
  | controlCharacterInString
  | keyMustBeAString
  | loneLeadingSurrogate
  | trailingComma
  | trailingCharacters
  | unexpectedEndOfHexEscape
  | invalidType (found : Unexpected) (expected : String)
  | invalidValue (found : Unexpected) (expected : String)
  | invalidLength (length : Nat) (expected : String)
  | unknownVariant (name : String) (expected : List String)
  | missingField (name : String)
  | duplicateField (name : String)

/-- The names of the allowed variants, as a message lists them. -/
def oneOf : List String → String
  | [] => "there are no variants"
  | [a] => "expected `" ++ a ++ "`"
  | [a, b] => "expected either `" ++ a ++ "` or `" ++ b ++ "`"
  | names => "expected one of " ++ ", ".intercalate (names.map fun n => "`" ++ n ++ "`")

/-- The text of a problem. -/
def Problem.describe : Problem → String
  | eofWhileParsingList => "EOF while parsing a list"
  | eofWhileParsingObject => "EOF while parsing an object"
  | eofWhileParsingString => "EOF while parsing a string"
  | eofWhileParsingValue => "EOF while parsing a value"
  | expectedColon => "expected `:`"
  | expectedListCommaOrEnd => "expected `,` or `]`"
  | expectedObjectCommaOrEnd => "expected `,` or `\x7d`"
  | expectedSomeIdent => "expected ident"
  | expectedSomeValue => "expected value"
  | invalidEscape => "invalid escape"
  | invalidNumber => "invalid number"
  | numberOutOfRange => "number out of range"
  | controlCharacterInString => "control character (\\u0000-\\u001F) found while parsing a string"
  | keyMustBeAString => "key must be a string"
  | loneLeadingSurrogate => "lone leading surrogate in hex escape"
  | trailingComma => "trailing comma"
  | trailingCharacters => "trailing characters"
  | unexpectedEndOfHexEscape => "unexpected end of hex escape"
  | invalidType found expected => "invalid type: " ++ found.describe ++ ", expected " ++ expected
  | invalidValue found expected => "invalid value: " ++ found.describe ++ ", expected " ++ expected
  | invalidLength n expected => "invalid length " ++ toString n ++ ", expected " ++ expected
  | unknownVariant name expected => "unknown variant `" ++ name ++ "`, " ++ oneOf expected
  | missingField name => "missing field `" ++ name ++ "`"
  | duplicateField name => "duplicate field `" ++ name ++ "`"

/-- A line and a column, both counted as the reader counts them. -/
structure Place where
  line : Nat
  column : Nat
  deriving DecidableEq, Repr

/-- A refused text: the problem, and where it was found once that is known. -/
structure Error where
  problem : Problem
  place : Option Place

/-- The message of an error. -/
def Error.message (e : Error) : String :=
  match e.place with
  | some p => e.problem.describe ++ " at line " ++ toString p.line ++ " column " ++ toString p.column
  | none => e.problem.describe

end KeyCustody.Json
