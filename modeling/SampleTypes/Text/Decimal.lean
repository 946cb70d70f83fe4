import SampleTypes.Text.Blank
import SampleTypes.Text.Lines
import SampleTypes.Text.Word

/-!
# Decimal numbers in texts

* `natOfDigits ds`     the number that decimal digits write;
* `signOf cs`          the sign of a number, and the characters after it;
* `grouped? cs`        digits in groups with an underscore between each two, without the
                       underscores;
* `integer? s`         the integer that a text writes, in digits of any script and with white
                       space around it.
-/

namespace SampleTypes.Text

/-- the number that decimal digits write -/
def natOfDigits (ds : List Char) : Nat :=
  ds.foldl (fun n d => 10 * n + (digitValue? d).getD 0) 0

/-- the sign of a number, true for negative ones, and the characters after it -/
def signOf : List Char → Bool × List Char
  | '-' :: cs => (true, cs)
  | '+' :: cs => (false, cs)
  | cs => (false, cs)

/-- a number with its sign -/
def signed (negative : Bool) (n : Nat) : Int := if negative then -(n : Int) else n

/-- digits in groups with an underscore between each two, without the underscores -/
def grouped? (isDigit : Char → Bool) (cs : List Char) : Option (List Char) :=
  let groups := splitAt '_' cs
  if groups.all fun g => !g.isEmpty && g.all isDigit then some groups.flatten else none

/-- the most digits of an integer in a text -/
def digitCeiling : Nat := 4300

/-- the integer that a text writes -/
def integer? (s : String) : Option Int := do
  let (negative, cs) := signOf (trimWith isSpacing s.toList)
  let ds ← grouped? isDigit cs
  if digitCeiling < ds.length then none else some (signed negative (natOfDigits ds))

theorem natOfDigits_append_singleton (ds : List Char) (d : Char) :
    natOfDigits (ds ++ [d]) = 10 * natOfDigits ds + (digitValue? d).getD 0 := by
  simp [natOfDigits]

end SampleTypes.Text
