import KeyCustody.Text.Printable

/-!
# Quoted text

The quoted form in which diagnostics show a text: the text between double quotes, with tab,
carriage return, line feed, backslash, double quote and NUL written as two-character escapes,
and every grapheme-extending or unprintable character written as `\u{…}` with its code point in
lowercase hexadecimal and no leading zeros. Every other character stands for itself.
-/

namespace KeyCustody.Text

/-- The written form of a code point escape: backslash, `u`, and the hexadecimal digits in braces. -/
def unicodeEscape (c : Char) : List Char :=
  ['\\', 'u', '\x7b'] ++ Nat.toDigits 16 c.toNat ++ ['\x7d']

/-- How one character is written inside the quotes. -/
def escapeChar (c : Char) : List Char :=
  if c = '\t' then ['\\', 't']
  else if c = '\r' then ['\\', 'r']
  else if c = '\n' then ['\\', 'n']
  else if c = '\\' then ['\\', '\\']
  else if c = '"' then ['\\', '"']
  else if c = '\x00' then ['\\', '0']
  else if extendsGrapheme c || !isPrintable c then unicodeEscape c
  else [c]

/-- The quoted form of a text. -/
def quote (s : String) : String :=
  String.ofList ('"' :: s.toList.flatMap escapeChar ++ ['"'])

end KeyCustody.Text
