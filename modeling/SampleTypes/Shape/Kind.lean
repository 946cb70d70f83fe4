import SampleTypes.Distinct
import SampleTypes.Json.Value
import SampleTypes.Shape.Basic

/-!
# Kinds of values

* `Primitive`         the basic types, and `Primitive.of` the one of a scalar;
* `pairValue? v`      the value of a pair `{id, value}` whose id is a string;
* `Kind.of v`         the kind of a value;
* `Elements.of? ss`   whether the items of an array share one type, from their shapes.
-/

namespace SampleTypes

inductive Primitive where
  | string
  | number
  | boolean
  deriving DecidableEq, Repr

def Primitive.name : Primitive → String
  | .string => "string"
  | .number => "number"
  | .boolean => "boolean"

/-- the basic type of a scalar; anything else counts as a string -/
def Primitive.of : Json → Primitive
  | .bool _ => .boolean
  | .int _ => .number
  | .float _ => .number
  | _ => .string

/-- the value of a record with exactly a string `id` and a `value` -/
def pairValue? : Json → Option Json
  | .obj fs =>
    if fs.length = 2 && ((fs.lookup "id").map Json.isString).getD false then fs.lookup "value"
    else none
  | _ => none

def isIdValuePair (v : Json) : Bool := (pairValue? v).isSome

/-- the kinds of values, each with what is looked at next -/
inductive Kind where
  | null
  | primitive (p : Primitive)
  | emptyArray
  | pairs (items : List Json)
  | array (items : List Json)
  | record (fields : Record)

namespace Kind

/-- the kind of an array -/
def ofItems (xs : List Json) : Kind :=
  if xs.isEmpty then .emptyArray
  else if xs.all isIdValuePair then .pairs xs
  else .array xs

/-- the kind of a value -/
def of : Json → Kind
  | .null => .null
  | .arr xs => ofItems xs
  | .obj fs => .record fs
  | v => .primitive (Primitive.of v)

end Kind

/-- what the shapes of an array's items come to -/
inductive Elements where
  | same (element : Shape)
  | union (alternatives : List TypeExpr)

namespace Elements

/-- whether an item has the type of the first one and is a plain value or a record with as many
fields -/
def agrees (first s : Shape) : Bool :=
  s.type.text == first.type.text && !s.isArray && s.fields.length == first.fields.length

/-- the items share a type when all agree with the first one, and its type is no array -/
def of? : List Shape → Option Elements
  | [] => none
  | first :: rest =>
    if !first.type.isArrayText && (first :: rest).all (agrees first) then some (.same first)
    else some (.union (distinctBy TypeExpr.text ((first :: rest).map (·.type))))

/-- the shape of an array with such items -/
def shape : Elements → Shape
  | .same s => { type := .array s.type, isArray := true, fields := s.fields }
  | .union [t] => { type := .array t, isArray := true }
  | .union ts => { type := .array (.union ts), isArray := true }

end Elements

theorem Elements.isSome_of? {ss : List Shape} (h : ss ≠ []) : (Elements.of? ss).isSome = true := by
  cases ss with
  | nil => exact absurd rfl h
  | cons s ss => by_cases hs : (!s.type.isArrayText && (s :: ss).all (agrees s)) = true <;>
      simp only [Elements.of?, hs] <;> rfl

end SampleTypes
