import SampleTypes.Text.Borders
import SampleTypes.Text.CaseTable

/-!
# Letter case

* `lower s`       a whole text in lower case: letter by letter, except that a capital sigma at
                  the end of a word becomes a final sigma, and the dotted capital I keeps its dot
                  as a combining mark;
* `upperFirst s`  a text with its first letter in upper case, which can be several characters.
-/

namespace SampleTypes.Text

/-- whether the letter belongs to the run -/
def CaseRun.covers (r : CaseRun) (n : Nat) : Bool :=
  r.first ≤ n && n ≤ r.last && (n - r.first) % r.stride == 0

/-- the image of a letter under a list of runs; a letter of no run stays as it is -/
def mapCase (runs : List CaseRun) (c : Char) : Char :=
  match runs.find? (·.covers c.toNat) with
  | some r => Char.ofNat (c.toNat + r.shift).toNat
  | none => c

def isCased (c : Char) : Bool := inside casedBorders c.toNat
def isSkipped (c : Char) : Bool := inside skippedBorders c.toNat

/-- whether the first character that is not skipped has case -/
def meetsCased (cs : List Char) : Bool :=
  match cs.dropWhile isSkipped with
  | [] => false
  | c :: _ => isCased c

/-- one letter in lower case, given the letters before it (nearest first) and after it -/
def lowerAt (before : List Char) (c : Char) (after : List Char) : List Char :=
  if c.toNat = 0x3a3 then
    if meetsCased before && !meetsCased after then [Char.ofNat 0x3c2] else [Char.ofNat 0x3c3]
  else if c.toNat = 0x130 then ['i', Char.ofNat 0x307]
  else [mapCase lowerRuns c]

/-- lower case of the rest of a text whose beginning, reversed, is `before` -/
def lowerFrom (before : List Char) : List Char → List Char
  | [] => []
  | c :: cs => lowerAt before c cs ++ lowerFrom (c :: before) cs

/-- a text in lower case -/
def lower (s : String) : String := String.ofList (lowerFrom [] s.toList)

/-- one letter in upper case -/
def upperChar (c : Char) : List Char :=
  match upperWide.find? (·.1 == c.toNat) with
  | some (_, ns) => ns.map Char.ofNat
  | none => [mapCase upperRuns c]

/-- the text with its first letter in upper case -/
def upperFirstChars : List Char → List Char
  | [] => []
  | c :: cs => upperChar c ++ cs

/-- the text with its first letter in upper case -/
def upperFirst (s : String) : String := String.ofList (upperFirstChars s.toList)

theorem lowerFrom_cons (before : List Char) (c : Char) (cs : List Char) :
    lowerFrom before (c :: cs) = lowerAt before c cs ++ lowerFrom (c :: before) cs := rfl

end SampleTypes.Text
