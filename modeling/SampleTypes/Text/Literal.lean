import SampleTypes.Text.Hex

/-!
# String literals in ASCII

A string literal stands between double quotes and uses the characters U+0020 to U+007E only.
The quote, the backslash and five control characters have short escapes; every other character
is written by the hexadecimal digits of its UTF-16 units.

* `utf16 c`     the one or two UTF-16 units of a character;
* `escape c`    the form of one character inside a literal;
* `literal s`   the literal of a text.
-/

namespace SampleTypes.Text

/-- the UTF-16 units of a character -/
def utf16 (c : Char) : List Nat :=
  let n := c.toNat
  if n < 0x10000 then [n]
  else [0xd800 + (n - 0x10000) / 0x400, 0xdc00 + (n - 0x10000) % 0x400]

/-- a UTF-16 unit as an escape of four digits -/
def escapeUnit (n : Nat) : List Char := '\\' :: 'u' :: hexFixed 4 n

/-- the form of a character inside a literal -/
def escape (c : Char) : List Char :=
  if c = '\x22' then ['\\', '\x22']
  else if c = '\\' then ['\\', '\\']
  else if c = '\n' then ['\\', 'n']
  else if c = '\r' then ['\\', 'r']
  else if c = '\t' then ['\\', 't']
  else if c = '\x0c' then ['\\', 'f']
  else if c = '\x08' then ['\\', 'b']
  else if 0x20 ≤ c.toNat ∧ c.toNat ≤ 0x7e then [c]
  else (utf16 c).flatMap escapeUnit

/-- the literal of a text, as characters -/
def literalChars (cs : List Char) : List Char := '\x22' :: cs.flatMap escape ++ ['\x22']

/-- the literal of a text -/
def literal (s : String) : String := String.ofList (literalChars s.toList)

end SampleTypes.Text
