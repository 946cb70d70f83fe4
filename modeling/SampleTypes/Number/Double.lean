/-!
# Binary floating-point numbers

A `Double` is a number of the 64-bit binary format as data: not a number, an infinity, or
`mantissa * 2 ^ (exponent - 1074)` with a sign.  The mantissa has at most 53 bits, and a
mantissa below `2 ^ 52` stands only with exponent zero, so equal numbers of one sign are
equal data.

* `ofRatio neg num den`     the double nearest to `num / den`, a tie going to the even mantissa;
* `ofDecimal neg n e`       the double nearest to `n * 10 ^ e`;
* `toInt?`                  the integer that a double without a fractional part is;
* `isZero`                  either zero;
* `add`, `mul`              sum and product, exact ones rounded once.
-/

namespace SampleTypes

inductive Double where
  | nan
  | infinite (negative : Bool)
  | finite (negative : Bool) (mantissa exponent : Nat)
  deriving DecidableEq, Repr, Inhabited

namespace Double

/-- a power of two -/
def twoTo (e : Nat) : Nat := Nat.pow 2 e

/-- a power of ten -/
def tenTo (e : Nat) : Nat := Nat.pow 10 e

/-- the quotient rounded to the nearest natural number, a tie going to the even one -/
def roundDiv (num den : Nat) : Nat :=
  let q := num / den
  let r := num % den
  if 2 * r < den then q
  else if den < 2 * r then q + 1
  else if q % 2 = 0 then q else q + 1

/-- a number of at most 54 bits times `2 ^ (exponent - 1074)`, after rounding to a mantissa -/
def assemble (negative : Bool) (mantissa exponent : Nat) : Double :=
  let (m, e) := if mantissa = twoTo 53 then (twoTo 52, exponent + 1) else (mantissa, exponent)
  if 2045 < e then .infinite negative else .finite negative m e

/-- the double nearest to `num / den` -/
def ofRatio (negative : Bool) (num den : Nat) : Double :=
  if num = 0 then .finite negative 0 0
  else
    let k : Int := (num.log2 : Int) - (den.log2 : Int) + 1074 - 53
    -- the quotient times `2 ^ (1074 - e)` lies below `2 ^ 54` for `e`, below `2 ^ 53` for `e + 1`
    let e := k.toNat
    let scaled (e : Nat) : Nat × Nat :=
      if e ≤ 1074 then (num * twoTo (1074 - e), den) else (num, den * twoTo (e - 1074))
    let (a, b) := scaled e
    if a / b < twoTo 53 then assemble negative (roundDiv a b) e
    else
      let (a, b) := scaled (e + 1)
      assemble negative (roundDiv a b) (e + 1)

/-- the number of decimal digits of a positive number, at least one -/
def digitCount (n : Nat) : Nat := (Nat.toDigits 10 n).length

/-- the double nearest to `n * 10 ^ e` -/
def ofDecimal (negative : Bool) (n : Nat) (e : Int) : Double :=
  if n = 0 then .finite negative 0 0
  else
    let magnitude : Int := (digitCount n : Int) + e
    if 400 < magnitude then .infinite negative
    else if magnitude < -400 then .finite negative 0 0
    else if 0 ≤ e then ofRatio negative (n * tenTo e.toNat) 1
    else ofRatio negative n (tenTo (-e).toNat)

/-- either zero -/
def isZero : Double → Bool
  | .finite _ m _ => m == 0
  | _ => false

/-- the integer that a double is, if it is one -/
def toInt? : Double → Option Int
  | .finite neg m e =>
    let sign (n : Nat) : Int := if neg then -(n : Int) else n
    if 1074 ≤ e then some (sign (m * twoTo (e - 1074)))
    else if m % twoTo (1074 - e) = 0 then some (sign (m / twoTo (1074 - e)))
    else none
  | _ => none

def isFinite : Double → Bool
  | .finite _ _ _ => true
  | _ => false

/-! ## sum and product

Every finite number is a whole multiple of the least positive one, which is the unit here. -/

/-- the least positive numbers in one -/
def unit : Nat := twoTo 1074

/-- a finite number in units, by its mantissa and exponent -/
def units (negative : Bool) (mantissa exponent : Nat) : Int :=
  let n : Int := mantissa * twoTo exponent
  if negative then -n else n

/-- the double nearest to a number of units; zero takes the sign given for it -/
def ofUnits (zeroSign : Bool) (n : Int) : Double :=
  if n = 0 then .finite zeroSign 0 0 else ofRatio (decide (n < 0)) n.natAbs unit

def add : Double → Double → Double
  | .nan, _ => .nan
  | _, .nan => .nan
  | .infinite s, .infinite t => if s = t then .infinite s else .nan
  | .infinite s, .finite _ _ _ => .infinite s
  | .finite _ _ _, .infinite t => .infinite t
  | .finite s m e, .finite t n f => ofUnits (s && t) (units s m e + units t n f)

def mul : Double → Double → Double
  | .nan, _ => .nan
  | _, .nan => .nan
  | .infinite s, .infinite t => .infinite (s != t)
  | .infinite s, .finite t n _ => if n = 0 then .nan else .infinite (s != t)
  | .finite s m _, .infinite t => if m = 0 then .nan else .infinite (s != t)
  | .finite s m e, .finite t n f =>
    ofRatio (s != t) (m * n * twoTo (e + f)) (unit * unit)

/-- a double with the other sign -/
def neg : Double → Double
  | .nan => .nan
  | .infinite s => .infinite (!s)
  | .finite s m e => .finite (!s) m e

end Double

end SampleTypes
