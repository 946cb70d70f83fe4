import SampleTypes.Fields
import SampleTypes.Number.Double

/-!
# JSON values

Integers are exact and of any size, and differ from floating-point numbers of the same value.
The fields of an object keep their order.

* `isNull`, `isRecord`, ...   the kinds of values;
* `isTruthy`                  neither null, false, zero nor empty;
* `kindName`                  the name of a value's kind in messages.
-/

namespace SampleTypes

inductive Json where
  | null
  | bool (b : Bool)
  | int (n : Int)
  | float (x : Double)
  | str (s : String)
  | arr (items : List Json)
  | obj (fields : List (String × Json))
  deriving Inhabited

/-- a record: the fields of an object -/
abbrev Record := List (String × Json)

namespace Json

def isNull : Json → Bool
  | .null => true
  | _ => false

def isArray : Json → Bool
  | .arr _ => true
  | _ => false

def isRecord : Json → Bool
  | .obj _ => true
  | _ => false

def isString : Json → Bool
  | .str _ => true
  | _ => false

/-- integers and floating-point numbers; a boolean is no number -/
def isNumber : Json → Bool
  | .int _ => true
  | .float _ => true
  | _ => false

/-- the fields of an object -/
def record? : Json → Option Record
  | .obj fs => some fs
  | _ => none

/-- the items of an array -/
def items? : Json → Option (List Json)
  | .arr xs => some xs
  | _ => none

def isTruthy : Json → Bool
  | .null => false
  | .bool b => b
  | .int n => n != 0
  | .float x => !x.isZero
  | .str s => !s.isEmpty
  | .arr xs => !xs.isEmpty
  | .obj fs => !fs.isEmpty

/-- the name of a value's kind in messages -/
def kindName : Json → String
  | .null => "NoneType"
  | .bool _ => "bool"
  | .int _ => "int"
  | .float _ => "float"
  | .str _ => "str"
  | .arr _ => "list"
  | .obj _ => "dict"

theorem record?_obj (fs : Record) : (Json.obj fs).record? = some fs := rfl

end Json

end SampleTypes
