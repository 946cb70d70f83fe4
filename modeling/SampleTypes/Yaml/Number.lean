import SampleTypes.Number.Double
import SampleTypes.Text.Case
import SampleTypes.Text.Decimal
import SampleTypes.Text.Hex
import SampleTypes.Yaml.Fault

/-!
# Numbers in YAML texts

Underscores in a number do not count.  A number can be written in base sixty, with colons between
its digits; integers also in bases two, eight and sixteen.

* `isIntForm`, `isFloatForm`   whether characters are written like a number without a tag;
* `integerIn?`, `decimal?`     an integer in some base, and a number that may have a point;
* `intOf`, `floatOf`           the number that a text writes where one is asked for.
-/

namespace SampleTypes.Yaml

/-! ## forms -/

/-- digits of a base and underscores -/
def isDigits (base : Nat) (cs : List Char) : Bool :=
  cs.all fun c => c == '_' || (Text.hexValue? c).any (· < base)

/-- digits and underscores after a digit -/
def isWhole (cs : List Char) : Bool := cs.head?.any Text.isAsciiDigit && isDigits 10 cs

/-- a number below sixty in one or two digits -/
def isSixtieth (cs : List Char) : Bool :=
  match cs with
  | [c] => Text.isAsciiDigit c
  | [c, d] => decide ('0' ≤ c) && decide (c ≤ '5') && Text.isAsciiDigit d
  | _ => false

/-- digits in base sixty, of which there are at least two -/
def isSixties (cs : List Char) : Bool :=
  match Text.splitAt ':' cs with
  | whole :: sixtieths => isWhole whole && !sixtieths.isEmpty && sixtieths.all isSixtieth
  | [] => false

/-- whether characters without a sign are written like an integer -/
def isUnsignedForm : List Char → Bool
  | ['0'] => true
  | '0' :: 'b' :: ds => !ds.isEmpty && isDigits 2 ds
  | '0' :: 'x' :: ds => !ds.isEmpty && isDigits 16 ds
  | '0' :: ds => isDigits 8 ds
  | cs => isWhole cs || isSixties cs

/-- whether characters are written like an integer -/
def isIntForm (cs : List Char) : Bool := isUnsignedForm (Text.signOf cs).2

/-- an exponent with its sign, or nothing -/
def isExponent : List Char → Bool
  | [] => true
  | c :: s :: d :: ds =>
    (c == 'e' || c == 'E') && (s == '-' || s == '+') && (d :: ds).all Text.isAsciiDigit
  | _ => false

def isFractionChar (c : Char) : Bool := Text.isAsciiDigit c || c == '_'

/-- digits and underscores, and an exponent -/
def isFraction (cs : List Char) : Bool := isExponent (cs.dropWhile isFractionChar)

/-- the words for numbers without digits -/
def infinityWords : List (List Char) := [".inf", ".Inf", ".INF"].map String.toList
def nanWords : List (List Char) := [".nan", ".NaN", ".NAN"].map String.toList

/-- whether characters are written like a number with a point; one that starts with its point has
no sign -/
def isFloatForm (text : List Char) : Bool :=
  let (_, cs) := Text.signOf text
  infinityWords.contains cs || nanWords.contains text ||
    match cs.takeWhile (· != '.'), cs.dropWhile (· != '.') with
    | _, [] => false
    | [], _ :: rest => text == cs && rest.head?.any Text.isAsciiDigit && isFraction rest
    | before, _ :: rest =>
      if before.contains ':' then isSixties before && rest.all isFractionChar
      else isWhole before && isFraction rest

/-! ## values -/

def dropMarks (cs : List Char) : List Char := cs.filter (· != '_')

/-- the value of a digit in a base, which may be a digit of any script -/
def digitIn? (base : Nat) (c : Char) : Option Nat :=
  (Text.digitValue? c <|> Text.hexValue? c).filter (· < base)

/-- the number of digits in a base, of which there is at least one -/
def natIn? (base : Nat) (ds : List Char) : Option Nat :=
  if ds.isEmpty then none
  else ds.foldl (fun n d => do return base * (← n) + (← digitIn? base d)) (some 0)

/-- the letters that can stand after a zero to name a base -/
def baseLetters (base : Nat) : List Char :=
  if base = 2 then ['b', 'B'] else if base = 8 then ['o', 'O'] else if base = 16 then ['x', 'X']
  else []

/-- the digits after the name of a base, if one stands there -/
def dropBase (base : Nat) : List Char → List Char
  | '0' :: c :: ds => if (baseLetters base).contains c then ds else '0' :: c :: ds
  | ds => ds

/-- an integer in a base, with white space around it; in base ten there is a limit to its digits -/
def integerIn? (base : Nat) (cs : List Char) : Option Int :=
  let (negative, ds) := Text.signOf (Text.trimWith Text.isSpacing cs)
  if base = 10 ∧ Text.digitCeiling < ds.length then none
  else (natIn? base (dropBase base ds)).map (Text.signed negative)

/-- a value, or the fault that there is none -/
def found {α : Type} : Option α → Except ValueFault α
  | some a => .ok a
  | none => .error .noSuchValue

/-- the number of digits in base sixty -/
def intOfSixties (ns : List Int) : Int := ns.foldl (fun n d => 60 * n + d) 0

/-- an integer after its sign -/
def unsignedOf : List Char → Except ValueFault Int
  | [] => .error .nothingWritten
  | ['0'] => .ok 0
  | '0' :: 'b' :: ds => found (integerIn? 2 ds)
  | '0' :: 'x' :: ds => found (integerIn? 16 ds)
  | '0' :: ds => found (integerIn? 8 ('0' :: ds))
  | cs =>
    if cs.contains ':' then
      (found ((Text.splitAt ':' cs).mapM (integerIn? 10))).map intOfSixties
    else found (integerIn? 10 cs)

/-- the integer that a text writes -/
def intOf (text : String) : Except ValueFault Int :=
  match dropMarks text.toList with
  | [] => .error .nothingWritten
  | cs =>
    let (negative, cs) := Text.signOf cs
    (unsignedOf cs).map fun n => if negative then -n else n

/-- the digits at the start, as ASCII digits, and the rest -/
def spanDigits (cs : List Char) : List Char × List Char :=
  (cs.takeWhile Text.isDigit, cs.dropWhile Text.isDigit)

/-- an exponent up to the end of the characters -/
def exponent? : List Char → Option Int
  | [] => some 0
  | c :: cs =>
    let (negative, ds) := Text.signOf cs
    if c = 'e' ∧ !ds.isEmpty ∧ ds.all Text.isDigit then
      some (Text.signed negative (Text.natOfDigits ds))
    else none

/-- the digits after a point, if one stands there, and the rest -/
def fractionOf : List Char → List Char × List Char
  | '.' :: cs => spanDigits cs
  | cs => ([], cs)

/-- a number after its sign, in small letters -/
def unsignedDecimal? (negative : Bool) (cs : List Char) : Option Double :=
  if cs = "inf".toList ∨ cs = "infinity".toList then some (.infinite negative)
  else if cs = "nan".toList then some .nan
  else
    let (whole, rest) := spanDigits cs
    let (fraction, rest) := fractionOf rest
    if whole.isEmpty && fraction.isEmpty then none
    else (exponent? rest).map fun e =>
      .ofDecimal negative (Text.natOfDigits (whole ++ fraction)) (e - fraction.length)

/-- a number in small letters, with white space around it -/
def decimal? (cs : List Char) : Option Double :=
  let (negative, cs) := Text.signOf (Text.trimWith Text.isSpacing cs)
  unsignedDecimal? negative cs

/-- the sum of digits in base sixty, the last one first, after digits that sum up to `sum`; the
next digit counts `base` -/
def sumOfSixties (sum : Double) (base : Nat) : List Double → Except ValueFault Double
  | [] => .ok sum
  | d :: ds =>
    let b := Double.ofRatio false base 1
    if b.isFinite then sumOfSixties (sum.add (d.mul b)) (60 * base) ds else .error .tooLarge

/-- a number in small letters, after its sign -/
def magnitudeOf (cs : List Char) : Except ValueFault Double :=
  if cs = ".inf".toList then .ok (.infinite false)
  else if cs = ".nan".toList then .ok .nan
  else if cs.contains ':' then do
    let ds ← found ((Text.splitAt ':' cs).mapM decimal?)
    sumOfSixties (.finite false 0 0) 1 ds.reverse
  else found (decimal? cs)

/-- the number that a text writes, with or without a point -/
def floatOf (text : String) : Except ValueFault Double :=
  match (Text.lower (String.ofList (dropMarks text.toList))).toList with
  | [] => .error .nothingWritten
  | cs =>
    let (negative, cs) := Text.signOf cs
    (magnitudeOf cs).map fun x => if negative then x.neg else x

end SampleTypes.Yaml
