import SampleTypes.Config.Checked
import SampleTypes.Text.Decimal
import SampleTypes.Text.Decode

/-!
# Checks of single values

* `textOf`   texts, also as their bytes;
* `boolOf`   truth values, also as the numbers zero and one or as a word for yes or no;
* `intOf`    integers, also as truth values, as floating-point numbers without a fraction, or as
             decimal texts, where bytes count as the text they encode.
-/

namespace SampleTypes.Checked

/-- the text that bytes encode -/
def decoded? (bs : List Nat) : Option String :=
  (Text.decode .utf8 bs).toOption.map String.ofList

def textOf : Data → Checked String
  | .text s => .accepted s
  | .bytes bs => ((decoded? bs).map .accepted).getD (reject .notDecoded)
  | _ => reject .notText

/-- a letter in ASCII lower case -/
def lowerAscii (c : Char) : Char := if Text.isAsciiUpper c then Char.ofNat (c.toNat + 32) else c

/-- the words for the two truth values -/
def boolWords : List (String × Bool) := [
  ("0", false), ("off", false), ("f", false), ("false", false), ("n", false), ("no", false),
  ("1", true), ("on", true), ("t", true), ("true", true), ("y", true), ("yes", true)]

/-- a truth value by its word, in any letter case -/
def boolWord? (s : String) : Option Bool :=
  boolWords.lookup (String.ofList (s.toList.map lowerAscii))

/-- integers from here on away from zero have no 64-bit form -/
def wordBound : Nat := Double.twoTo 63

/-- whether an integer is held by 64 bits with a sign -/
def fitsWord (n : Int) : Bool := decide (-(wordBound : Int) ≤ n) && decide (n < wordBound)

/-- the truth value of a number of 64 bits -/
def boolOfInt (n : Int) : Checked Bool :=
  if n = 0 then .accepted false else if n = 1 then .accepted true else reject .unclearBool

def boolOfText (s : String) : Checked Bool :=
  ((boolWord? s).map .accepted).getD (reject .unclearBool)

def boolOf : Data → Checked Bool
  | .bool b => .accepted b
  | .int n => if fitsWord n then boolOfInt n else reject .notBool
  | .float x =>
    match x.toInt? with
    | some n => if n.natAbs < wordBound then boolOfInt n else reject .notBool
    | none => reject .notBool
  | .text s => boolOfText s
  | .bytes bs => ((decoded? bs).map boolOfText).getD (reject .unclearBool)
  | _ => reject .notBool

/-- a number without the zeros it starts with, after such a zero: underscores may stand among them,
a minus sign may follow them, and the last of these characters is kept before the end or a point -/
def dropLeadingZeros (last : Char) : List Char → Option (List Char)
  | [] => some [last]
  | c :: cs =>
    if c = '0' ∨ c = '_' then dropLeadingZeros c cs
    else if c = '.' then some (last :: c :: cs)
    else if Text.isAsciiDigit c ∨ c = '-' then some (c :: cs)
    else none

/-- the number before a fraction that consists of zeros -/
def dropZeroFraction (cs : List Char) : List Char :=
  match cs.dropWhile (· != '.') with
  | _ :: z :: zs => if (z :: zs).all (· == '0') then cs.takeWhile (· != '.') else cs
  | _ => cs

/-- a number without underscores, which stand neither at its ends nor side by side -/
def dropUnderscores (cs : List Char) : List Char :=
  if (Text.splitAt '_' cs).all (!·.isEmpty) then cs.filter (· != '_') else cs

/-- a number in its plain form: without a plus sign, leading zeros, a fraction of zeros and
underscores -/
def plainNumber? (cs : List Char) : Option (List Char) :=
  match cs with
  | '+' :: '-' :: _ => none
  | '+' :: cs => clean? cs
  | cs => clean? cs
where
  /-- the plain form of a number without a plus sign -/
  clean? : List Char → Option (List Char)
    | [] => none
    | c :: cs =>
      let digits :=
        if c = '0' then dropLeadingZeros c cs
        else if Text.isAsciiDigit c ∨ c = '-' then some (c :: cs)
        else none
      digits.map fun ds => dropUnderscores (dropZeroFraction ds)

/-- whether characters are a zero, or digits that start with another one -/
def isWholeNumber : List Char → Bool
  | ['0'] => true
  | c :: cs => c != '0' && (c :: cs).all Text.isAsciiDigit
  | [] => false

/-- the digits that a number starts with; a zero in front of others starts none -/
def leadingDigits (ds : List Char) : List Char :=
  if ds.head? = some '0' then [] else ds.takeWhile Text.isAsciiDigit

/-- the integer that a text writes; too many digits count before what may follow them -/
def intOfText (s : String) : Checked Int :=
  match plainNumber? (Text.trimWith Text.isSpacing s.toList) with
  | none => reject .unreadableInt
  | some cs =>
    let (negative, ds) := Text.signOf cs
    let signs := cs.length - ds.length
    if Text.digitCeiling < signs + (leadingDigits ds).length then reject .hugeInt
    else if isWholeNumber ds then .accepted (Text.signed negative (Text.natOfDigits ds))
    else reject .unreadableInt

def intOf : Data → Checked Int
  | .int n => .accepted n
  | .bool b => .accepted (if b then 1 else 0)
  | .float x =>
    if !x.isFinite then reject .notFinite
    else match x.toInt? with
      | none => reject .fractional
      | some n => if n.natAbs < wordBound then .accepted n else reject .hugeInt
  | .text s => intOfText s
  | .bytes bs => ((decoded? bs).map intOfText).getD (reject .unreadableInt)
  | _ => reject .notInt

end SampleTypes.Checked
