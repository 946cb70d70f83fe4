import SampleTypes.Config.Data
import SampleTypes.Environment.Basic
import SampleTypes.Text.Word

/-!
# References to environment variables

A text can refer to a variable as `$NAME` or as `${NAME}`, where a name is a run of word
characters, as long as possible.  A dollar sign that starts no reference stands for itself, and
what a variable holds is taken as it is.

* `reference? cs`   the name referred to after a dollar sign, and the characters it takes;
* `segments cs`     a text as characters and references, from left to right;
* `expandText`      the text with the variables' values, or the first name that is not set;
* `Data.expand`     the same for every text in some data; keys stay as they are.
-/

namespace SampleTypes

/-- a character of a text, or a reference by name -/
inductive Segment where
  | char (c : Char)
  | reference (name : String)
  deriving DecidableEq, Repr

/-- the name of a reference after its dollar sign, and the number of characters it takes -/
def reference? : List Char → Option (String × Nat)
  | '\x7b' :: cs =>
    let name := cs.takeWhile Text.isWord
    match name, cs.dropWhile Text.isWord with
    | _ :: _, '\x7d' :: _ => some (String.ofList name, name.length + 2)
    | _, _ => none
  | cs =>
    match cs.takeWhile Text.isWord with
    | [] => none
    | name => some (String.ofList name, name.length)

/-- the segments after `skip` characters of an earlier one -/
def segmentsFrom : Nat → List Char → List Segment
  | _, [] => []
  | skip + 1, _ :: cs => segmentsFrom skip cs
  | 0, c :: cs =>
    if c = '$' then
      match reference? cs with
      | some (name, used) => .reference name :: segmentsFrom used cs
      | none => .char c :: segmentsFrom 0 cs
    else .char c :: segmentsFrom 0 cs

/-- the segments of a text -/
def segments (s : String) : List Segment := segmentsFrom 0 s.toList

/-- what a segment stands for, or the name that is not set -/
def Segment.value (env : Environment) : Segment → Except String (List Char)
  | .char c => .ok [c]
  | .reference name =>
    match env.lookup name with
    | some v => .ok v.toList
    | none => .error name

/-- what the segments stand for together -/
def expandSegments (env : Environment) : List Segment → Except String (List Char)
  | [] => .ok []
  | s :: ss => do
    let head ← s.value env
    let tail ← expandSegments env ss
    return head ++ tail

/-- a text with its references replaced, or the first name that is not set -/
def expandText (env : Environment) (s : String) : Except String String :=
  (expandSegments env (segments s)).map String.ofList

namespace Data

mutual

/-- data with the references in its texts replaced, or the first name that is not set -/
def expand (env : Environment) : Data → Except String Data
  | .text s => (expandText env s).map .text
  | .list xs => (expandItems env xs).map .list
  | .mapping es => (expandEntries env es).map .mapping
  | v => .ok v

def expandItems (env : Environment) : List Data → Except String (List Data)
  | [] => .ok []
  | x :: xs => do
    let head ← expand env x
    let tail ← expandItems env xs
    return head :: tail

def expandEntries (env : Environment) : List (Key × Data) → Except String (List (Key × Data))
  | [] => .ok []
  | (k, v) :: es => do
    let head ← expand env v
    let tail ← expandEntries env es
    return (k, head) :: tail

end

end Data

theorem segmentsFrom_nil (skip : Nat) : segmentsFrom skip [] = [] := by cases skip <;> rfl

end SampleTypes
