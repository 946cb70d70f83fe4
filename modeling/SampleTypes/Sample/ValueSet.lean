import SampleTypes.Distinct
import SampleTypes.Json.Printer
import SampleTypes.Shape.Basic

/-!
# Closed value sets

The array items seen at one place, when they are few and are all strings or all numbers.

* `unionItems arrays`  the items of some arrays, each once: items count as the same when they
                       differ only in the order of object fields;
* `ValueSet.of? p xs`  the value set of the items `xs` seen at a path, if they are closed.
-/

namespace SampleTypes

/-- the items of some arrays, each once, in the order of their first appearance -/
def unionItems (arrays : List (List Json)) : List Json :=
  (distinctBy Prod.fst (arrays.flatten.map fun x => (x.canonical, x))).map Prod.snd

/-- a value set with more values is open -/
def valueSetCeiling : Nat := 100

inductive ValueKind where
  | string
  | number
  deriving DecidableEq, Repr

def ValueKind.name : ValueKind → String
  | .string => "string"
  | .number => "number"

structure ValueSet where
  path : Path
  kind : ValueKind
  values : List Json

namespace ValueSet

/-- the path of a value set as one text -/
def dotted (v : ValueSet) : String := Shape.dotted v.path

/-- the common kind of some values -/
def kindOf? (xs : List Json) : Option ValueKind :=
  if xs.all Json.isString then some .string
  else if xs.all Json.isNumber then some .number
  else none

/-- the value set of the items seen at a path, if they are closed -/
def of? (path : Path) (xs : List Json) : Option ValueSet :=
  if xs.isEmpty || valueSetCeiling < xs.length then none
  else (kindOf? xs).map fun kind => ⟨path, kind, xs⟩

end ValueSet

end SampleTypes
