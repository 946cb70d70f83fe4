import SampleTypes.Number.Double

/-!
# The shortest decimal of a double

A decimal reads back as a double when it lies in the interval of numbers that round to it; the
ends belong to the interval when the mantissa is even.  The shortest decimal is found on the
grids of one, two, up to seventeen significant digits: on each, only the two neighbours of the
double can lie in the interval, and the first grid with a hit wins.  Of two hits the nearer one
is taken, and of two equally near ones the even one.

* `Interval`             a double and its interval, over a common denominator;
* `Interval.onGrid`      the decimal with a given number of digits, if one reads back;
* `shortest m e`         digits and exponent of the shortest decimal of `m * 2 ^ (e - 1074)`;
* `Double.text`          the text of a double: positional while the first digit stands between
                         the places `10 ^ -4` and `10 ^ 15`, with an exponent otherwise.
-/

namespace SampleTypes

namespace Double

/-- a positive double `value / den` and the numbers `low / den` to `high / den` that round to
it -/
structure Interval where
  value : Nat
  low : Nat
  high : Nat
  den : Nat
  closed : Bool

/-- the interval of `m * 2 ^ (e - 1074)`: half a unit to both sides, but a quarter below a power
of two, where the units are half as large -/
def interval (m e : Nat) : Interval :=
  let below := if m = twoTo 52 ∧ 0 < e then 1 else 2
  { value := 4 * m * twoTo e, low := (4 * m - below) * twoTo e, high := (4 * m + 2) * twoTo e,
    den := twoTo 1076, closed := m % 2 == 0 }

/-- the `k` with `10 ^ (k - 1) ≤ value / den < 10 ^ k` -/
def Interval.places (i : Interval) : Int :=
  if i.den ≤ i.value then digitCount (i.value / i.den)
  else 1 - (digitCount ((i.den - 1) / i.value) : Int)

/-- the interval with every number multiplied by `10 ^ -s` -/
def Interval.scaled (i : Interval) (s : Int) : Interval :=
  if 0 ≤ s then { i with den := i.den * tenTo s.toNat }
  else
    let f := tenTo (-s).toNat
    { i with value := i.value * f, low := i.low * f, high := i.high * f }

/-- whether the natural number `n` lies in the interval -/
def Interval.holds (i : Interval) (n : Nat) : Bool :=
  if i.closed then i.low ≤ n * i.den && n * i.den ≤ i.high
  else i.low < n * i.den && n * i.den < i.high

/-- the natural number in the interval that is nearest to its double, if there is one -/
def Interval.nearest? (i : Interval) : Option Nat :=
  let a := i.value / i.den
  let up := (a + 1) * i.den - i.value
  let down := i.value - a * i.den
  match i.holds a, i.holds (a + 1) with
  | true, true =>
    if down < up then some a
    else if up < down then some (a + 1)
    else if a % 2 = 0 then some a else some (a + 1)
  | true, false => some a
  | false, true => some (a + 1)
  | false, false => none

/-- the decimal `n * 10 ^ s` on the grid of `digits` digits, as `(n, s)`, if one reads back -/
def Interval.onGrid (i : Interval) (digits : Nat) : Option (Nat × Int) :=
  let s := i.places - digits
  (i.scaled s).nearest?.map (·, s)

/-- the decimal on the first grid that has one, from the grid of `digits` digits on -/
def Interval.firstFrom (i : Interval) (digits : Nat) : Nat → Nat × Int
  | 0 =>
    let s := i.places - digits
    ((i.scaled s).value / (i.scaled s).den, s)
  | grids + 1 =>
    match i.onGrid digits with
    | some d => d
    | none => i.firstFrom (digits + 1) grids

/-- digits and exponent of the shortest decimal of `m * 2 ^ (e - 1074)`, with `m` positive -/
def shortest (m e : Nat) : Nat × Int := (interval m e).firstFrom 1 17

/-- the digits of a positive number without the zeros at the end, with the number of all -/
def significant (n : Nat) : List Char × Nat :=
  let ds := Nat.toDigits 10 n
  ((ds.reverse.dropWhile (· == '0')).reverse, ds.length)

/-- an exponent with its sign and at least two digits -/
def exponentText (e : Int) : List Char :=
  let ds := Nat.toDigits 10 e.natAbs
  (if e < 0 then '-' else '+') :: (if ds.length < 2 then '0' :: ds else ds)

/-- the text of the decimal with these digits, the point standing after the first `point` of
them -/
def place (ds : List Char) (point : Int) : List Char :=
  if point ≤ -4 ∨ 16 < point then
    let tail := match ds.drop 1 with
      | [] => []
      | rest => '.' :: rest
    ds.take 1 ++ tail ++ 'e' :: exponentText (point - 1)
  else if point ≤ 0 then '0' :: '.' :: List.replicate (-point).toNat '0' ++ ds
  else
    let p := point.toNat
    let whole := ds.take p ++ List.replicate (p - ds.length) '0'
    let fraction := match ds.drop p with
      | [] => ['0']
      | rest => rest
    whole ++ '.' :: fraction

/-- the text of a finite double without its sign -/
def magnitudeText (m e : Nat) : List Char :=
  if m = 0 then ['0', '.', '0']
  else
    let (n, s) := shortest m e
    let (ds, count) := significant n
    place ds (count + s)

/-- the texts of the doubles that are no numbers -/
structure Specials where
  nan : String
  infinity : String

/-- the text of a double -/
def text (names : Specials) : Double → String
  | .nan => names.nan
  | .infinite neg => (if neg then "-" else "") ++ names.infinity
  | .finite neg m e => (if neg then "-" else "") ++ String.ofList (magnitudeText m e)

end Double

end SampleTypes
