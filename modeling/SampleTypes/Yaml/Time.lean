import SampleTypes.Config.Data
import SampleTypes.Yaml.Cursor

/-!
# Times in YAML texts

A date is written with hyphens.  A time of day may follow it, with colons, a fraction of the second
and the distance of its zone.

* `isTimeForm`   whether characters are written like a time without a tag;
* `Moment`       a date, with a time of day in a zone or without;
* `timeOf`       the time that a text writes where one is asked for.
-/

namespace SampleTypes.Yaml

/-- a number of at least `least` and at most `most` digits at the start, and the rest -/
def numeral (least most : Nat) (cs : List Char) : Option (Nat × List Char) :=
  let ds := (cs.take most).takeWhile Text.isAsciiDigit
  if ds.length < least then none else some (Text.natOfDigits ds, cs.drop ds.length)

/-- the characters after a given one -/
def expect (c : Char) : List Char → Option (List Char)
  | [] => none
  | d :: cs => if d = c then some cs else none

structure Date where
  year : Nat
  month : Nat
  day : Nat
  deriving DecidableEq, Repr

def isLeap (year : Nat) : Bool := year % 4 == 0 && (year % 100 != 0 || year % 400 == 0)

/-- the days of a month -/
def daysOf (year month : Nat) : Nat :=
  if month = 2 then (if isLeap year then 29 else 28)
  else if month = 4 ∨ month = 6 ∨ month = 9 ∨ month = 11 then 30
  else 31

def Date.isReal (d : Date) : Bool :=
  1 ≤ d.year && 1 ≤ d.month && d.month ≤ 12 && 1 ≤ d.day && d.day ≤ daysOf d.year d.month

/-- a date whose month and day have at least `least` digits, and the rest -/
def dateAt (least : Nat) (cs : List Char) : Option (Date × List Char) := do
  let (year, cs) ← numeral 4 4 cs
  let (month, cs) ← numeral least 2 (← expect '-' cs)
  let (day, cs) ← numeral least 2 (← expect '-' cs)
  return (⟨year, month, day⟩, cs)

structure Clock where
  hour : Nat
  minute : Nat
  second : Nat
  micro : Nat
  deriving DecidableEq, Repr

def Clock.isReal (t : Clock) : Bool := t.hour < 24 && t.minute < 60 && t.second < 60

/-- the six digits that count of a fraction of a second -/
def microOf (ds : List Char) : Nat :=
  let ds := ds.take 6
  Text.natOfDigits (ds ++ List.replicate (6 - ds.length) '0')

/-- a time of day, and the rest -/
def clockAt (cs : List Char) : Option (Clock × List Char) := do
  let (hour, cs) ← numeral 1 2 cs
  let (minute, cs) ← numeral 2 2 (← expect ':' cs)
  let (second, cs) ← numeral 2 2 (← expect ':' cs)
  match cs with
  | '.' :: cs =>
    let ds := cs.takeWhile Text.isAsciiDigit
    return (⟨hour, minute, second, microOf ds⟩, cs.drop ds.length)
  | cs => return (⟨hour, minute, second, 0⟩, cs)

/-- the distance of a zone's clock in minutes -/
inductive Zone where
  | none
  | offset (negative : Bool) (minutes : Nat)
  deriving DecidableEq, Repr

def Zone.isReal : Zone → Bool
  | .none => true
  | .offset _ minutes => minutes < 24 * 60

/-- a zone up to the end of the characters -/
def zoneAt (cs : List Char) : Option Zone :=
  if cs.isEmpty then some .none
  else match cs.dropWhile isInline with
    | ['Z'] => some (.offset false 0)
    | s :: cs =>
      if s = '-' ∨ s = '+' then do
        let (hours, cs) ← numeral 1 2 cs
        match cs with
        | [] => return .offset (s == '-') (60 * hours)
        | cs =>
          let (minutes, cs) ← numeral 2 2 (← expect ':' cs)
          if cs.isEmpty then return .offset (s == '-') (60 * hours + minutes) else failure
      else none
    | [] => none

/-- the characters after the mark between a date and a time of day -/
def afterTimeMark : List Char → Option (List Char)
  | [] => none
  | c :: cs =>
    if c = 'T' ∨ c = 't' then some cs
    else if isInline c then some (cs.dropWhile isInline)
    else none

/-- the parts of a form with commas between them -/
def commaJoined : List String → String
  | [] => ""
  | [a] => a
  | a :: as => a ++ ", " ++ commaJoined as

def Date.parts (d : Date) : List String := [toString d.year, toString d.month, toString d.day]

/-- the parts of a time of day; zero seconds and fractions at the end are left out -/
def Clock.parts (t : Clock) : List String :=
  let seconds :=
    if t.micro != 0 then [toString t.second, toString t.micro]
    else if t.second != 0 then [toString t.second]
    else []
  toString t.hour :: toString t.minute :: seconds

def Zone.parts : Zone → List String
  | .none => []
  | .offset negative minutes =>
    let seconds := 60 * minutes
    if seconds = 0 then ["tzinfo=datetime.timezone.utc"]
    else
      let distance :=
        if negative then "days=-1, seconds=" ++ toString (86400 - seconds)
        else "seconds=" ++ toString seconds
      ["tzinfo=datetime.timezone(datetime.timedelta(" ++ distance ++ "))"]

/-! ## instants -/

/-- the days before a year -/
def daysBeforeYear (year : Nat) : Nat :=
  let y := year - 1
  365 * y + y / 4 + y / 400 - y / 100

/-- the days of a year before a month -/
def daysBeforeMonth (year month : Nat) : Nat :=
  ((List.range month).drop 1).foldl (fun n m => n + daysOf year m) 0

def Date.number (d : Date) : Nat := daysBeforeYear d.year + daysBeforeMonth d.year d.month + d.day

def Clock.seconds (t : Clock) : Nat := 60 * (60 * t.hour + t.minute) + t.second

/-- the microsecond of a time at a distance in minutes -/
def instant (d : Date) (t : Clock) (negative : Bool) (minutes : Nat) : Int :=
  let seconds : Int := 86400 * d.number + t.seconds - 60 * Text.signed negative minutes
  1000000 * seconds + t.micro

/-! ## values -/

/-- a time as it is written -/
inductive Moment where
  | date (d : Date)
  | timed (d : Date) (t : Clock) (z : Zone)
  deriving DecidableEq, Repr

namespace Moment

def isReal : Moment → Bool
  | .date d => d.isReal
  | .timed d t z => d.isReal && t.isReal && z.isReal

/-- the form of a time as a key -/
def shown : Moment → String
  | .date d => "datetime.date(" ++ commaJoined d.parts ++ ")"
  | .timed d t z => "datetime.datetime(" ++ commaJoined (d.parts ++ t.parts ++ z.parts) ++ ")"

/-- a time as a key: one in a known zone counts by its instant -/
def key (m : Moment) : Key :=
  match m with
  | .timed d t (.offset negative minutes) => .moment (instant d t negative minutes) m.shown
  | m => .other m.shown

def kindName : Moment → String
  | .date _ => "date"
  | .timed _ _ _ => "datetime"

def value (m : Moment) : Data := .other m.kindName (some m.key)

end Moment

/-- a date with a time of day -/
def clockMoment? (cs : List Char) : Option Moment := do
  let (d, cs) ← dateAt 1 cs
  let (t, cs) ← clockAt (← afterTimeMark cs)
  return .timed d t (← zoneAt cs)

/-- a date whose month and day have at least `least` digits, or a date with a time of day -/
def moment? (least : Nat) (cs : List Char) : Option Moment :=
  match dateAt least cs with
  | some (d, []) => some (.date d)
  | _ => clockMoment? cs

/-- whether characters are written like a time -/
def isTimeForm (cs : List Char) : Bool := (moment? 2 cs).isSome

/-- characters without the line end after them -/
def dropLineEnd (cs : List Char) : List Char :=
  if cs.getLast? = some '\n' then cs.dropLast else cs

/-- the time that a text writes -/
def timeOf (text : String) : Except ValueFault Data :=
  match moment? 1 (dropLineEnd text.toList) with
  | none => .error .noSuchTime
  | some m => if m.isReal then .ok m.value else .error .noSuchValue

end SampleTypes.Yaml
