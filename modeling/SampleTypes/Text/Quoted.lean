import SampleTypes.Text.Borders
import SampleTypes.Text.Hex
import SampleTypes.Text.PrintableTable

/-!
# Quoted names in messages

A name in a message stands between single quotes, or between double quotes if it holds a single
quote and no double quote.  The quote in use and the backslash are escaped, line ends and tabs
have short escapes, and a character without a printed form is written by two, four or eight
hexadecimal digits.

* `isPrintable c`   whether the character is written as it stands;
* `quoted s`        the quoted form of a text.
-/

namespace SampleTypes.Text

/-- whether a character has a printed form of its own -/
def isPrintable (c : Char) : Bool :=
  if c.toNat < 0x7f then decide (0x20 ≤ c.toNat) else !inside unprintableBorders c.toNat

/-- the quotation mark for a text -/
def quoteMark (cs : List Char) : Char :=
  if cs.contains '\x27' && !cs.contains '\x22' then '\x22' else '\x27'

/-- a character without a printed form, by its shortest numbered escape -/
def numbered (c : Char) : List Char :=
  let n := c.toNat
  if n < 0x100 then '\\' :: 'x' :: hexFixed 2 n
  else if n < 0x10000 then '\\' :: 'u' :: hexFixed 4 n
  else '\\' :: 'U' :: hexFixed 8 n

/-- the form of a character between quotation marks `q` -/
def quotedChar (q c : Char) : List Char :=
  if c = q ∨ c = '\\' then ['\\', c]
  else if c = '\n' then ['\\', 'n']
  else if c = '\r' then ['\\', 'r']
  else if c = '\t' then ['\\', 't']
  else if isPrintable c then [c]
  else numbered c

/-- the quoted form of a text -/
def quoted (s : String) : String :=
  let cs := s.toList
  let q := quoteMark cs
  String.ofList (q :: cs.flatMap (quotedChar q) ++ [q])

end SampleTypes.Text
