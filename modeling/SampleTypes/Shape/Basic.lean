import SampleTypes.Fields
import SampleTypes.Shape.Expr

/-!
# Shapes

A shape is what is known of the values at one place: their type, whether it is an array, whether
the field that holds it may be missing or null, and for records and arrays of records the shapes
of the fields below.

* `Shape.rows`  the shapes of a tree from the root down, each with its depth and field name.
-/

namespace SampleTypes

structure Shape where
  type : TypeExpr
  isArray : Bool := false
  isOptional : Bool := false
  isNullable : Bool := false
  fields : List (String × Shape) := []
  deriving Inhabited

/-- the keys, and array markers, from the root to a value -/
abbrev Path := List String

namespace Shape

/-- the path as one text -/
def dotted (p : Path) : String := TypeExpr.joinTexts "." p

/-- the shape of a value of which nothing is known -/
def unknown : Shape := { type := .unknown, isOptional := true }

/-- the shape of an empty array -/
def emptyArray : Shape := { type := .array .unknown, isArray := true, isOptional := true }

/-- the shape with its field marked as null in some records -/
def nullable (s : Shape) : Shape := { s with isOptional := true, isNullable := true }

/-- a shape in a tree: how deep it is, the field that holds it, and the shape -/
structure Row where
  depth : Nat
  key : String
  shape : Shape

mutual

def rowsAt (depth : Nat) (key : String) : Shape → List Row
  | ⟨t, a, o, n, fs⟩ => ⟨depth, key, ⟨t, a, o, n, fs⟩⟩ :: rowsOfFields (depth + 1) fs

def rowsOfFields (depth : Nat) : List (String × Shape) → List Row
  | [] => []
  | (k, s) :: fs => rowsAt depth k s ++ rowsOfFields depth fs

end

/-- the shapes of a tree, each before those below it -/
def rows (s : Shape) : List Row := rowsAt 0 "" s

end Shape

end SampleTypes
