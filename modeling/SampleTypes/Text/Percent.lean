import SampleTypes.Text.Word

/-!
# Percent encoding

A path segment of an address keeps ASCII letters, digits and the marks `_ . - ~`; every other
character is written as its UTF-8 bytes, each as a percent sign and two upper-case digits.
-/

namespace SampleTypes.Text

/-- whether a character may stand in a path segment as it is -/
def isUnreserved (c : Char) : Bool :=
  isAsciiAlnum c || c == '_' || c == '.' || c == '-' || c == '~'

/-- an upper-case hexadecimal digit -/
def upperHexDigit (n : Nat) : Char :=
  let d := n % 16
  if d < 10 then Char.ofNat (48 + d) else Char.ofNat (55 + d)

def percentByte (b : UInt8) : List Char :=
  ['%', upperHexDigit (b.toNat / 16), upperHexDigit b.toNat]

def percentChar (c : Char) : List Char :=
  if isUnreserved c then [c] else (String.utf8EncodeChar c).flatMap percentByte

/-- a text as one path segment -/
def percentEncode (s : String) : String := String.ofList (s.toList.flatMap percentChar)

end SampleTypes.Text
