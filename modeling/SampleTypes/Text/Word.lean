import SampleTypes.Text.Borders
import SampleTypes.Text.WordTable

/-!
# Word characters and digits

* `isWord c`          letters, numbers of any kind and the underscore, in every script;
* `digitValue? c`     the value of a decimal digit of any script;
* `isAsciiLetter`, `isAsciiDigit`, `isAsciiAlnum`  the same within ASCII.

Within ASCII the classes are decided without the tables.
-/

namespace SampleTypes.Text

def isAsciiDigit (c : Char) : Bool := decide ('0' ≤ c) && decide (c ≤ '9')
def isAsciiUpper (c : Char) : Bool := decide ('A' ≤ c) && decide (c ≤ 'Z')
def isAsciiLower (c : Char) : Bool := decide ('a' ≤ c) && decide (c ≤ 'z')
def isAsciiLetter (c : Char) : Bool := isAsciiUpper c || isAsciiLower c
def isAsciiAlnum (c : Char) : Bool := isAsciiDigit c || isAsciiLetter c

/-- letters and numbers of every script, and the underscore -/
def isWord (c : Char) : Bool :=
  isAsciiAlnum c || c == '_' || (decide (0x80 ≤ c.toNat) && inside wordBorders c.toNat)

/-- the value of a decimal digit, in the block of ten that starts at its script's zero -/
def digitValue? (c : Char) : Option Nat :=
  if isAsciiDigit c then some (c.toNat - '0'.toNat)
  else (digitZeros.find? fun z => z ≤ c.toNat && c.toNat < z + 10).map (c.toNat - ·)

/-- decimal digits of every script -/
def isDigit (c : Char) : Bool := (digitValue? c).isSome

theorem isAsciiAlnum_of_letter {c : Char} (h : isAsciiLetter c = true) :
    isAsciiAlnum c = true := by
  simp [isAsciiAlnum, h]

end SampleTypes.Text
