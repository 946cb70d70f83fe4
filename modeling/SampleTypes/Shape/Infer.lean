import SampleTypes.Declaration.Body
import SampleTypes.Log
import SampleTypes.Shape.Kind
import SampleTypes.Shape.Registry

/-!
# Inference of shapes

A value is walked from the root down.  Every record gets a name from its path; its declaration
is registered after those of the records below it.

* `Settings`     the affixes of names, and the paths at which null was seen in some records;
* `Progress`     the registry so far and the log so far;
* `infer`        the shape of a value at a path, with the progress made;
* `inferItems`, `inferFields`, `inferPairs`  the same for what a value holds.

Of an array of pairs of id and value only the first pair's value is looked at.  A value on a path
longer than `maxDepth` is not looked at.
-/

namespace SampleTypes

/-- values on longer paths are of unknown type -/
def maxDepth : Nat := 256

structure Settings where
  affixes : Affixes := {}
  nullablePaths : List Path := []

structure Progress where
  registry : Registry := {}
  log : Log := []
  deriving Inhabited

namespace Infer

def tooDeep (path : Path) : Entry :=
  { level := .warning,
    text := "Nesting deeper than " ++ toString maxDepth ++ " at " ++ Shape.dotted path ++
      ", typing as unknown" }

def registered (name : String) (path : Path) : Entry :=
  let place := Shape.dotted path
  { level := .debug,
    text := "Registered type " ++ name ++ " at " ++ (if place = "" then "<root>" else place) }

/-- the progress after the record `name` with these fields was found at a path -/
def register (p : Progress) (name : String) (fields : List (String × Shape)) (path : Path) :
    Progress :=
  if p.registry.contains name then p
  else
    { registry := p.registry.register ⟨name, fields, Declaration.interfaceText name fields⟩
      log := p.log ++ [registered name path] }

/-- the type of an array of pairs whose first value has the type `t` -/
def pairsType (generic : String) (t : TypeExpr) : TypeExpr :=
  .array (if t.text = "string" then .name generic else .apply generic t)

/-- the shape of an array of pairs, with the generic type registered -/
def pairs (s : Settings) (value : Shape) (p : Progress) : Shape × Progress :=
  let generic := Name.idValueName s.affixes
  ({ type := pairsType generic value.type, isArray := true },
    { p with registry := p.registry.registerIdValue generic })

/-- the shape of a field: null in some records if its path is among the nullable ones -/
def fieldShape (s : Settings) (path : Path) (v : Json) (shape : Shape) : Shape :=
  if !v.isNull && s.nullablePaths.contains path then shape.nullable else shape

mutual

/-- the shape of a value at a path -/
def infer (s : Settings) (path : Path) (p : Progress) (v : Json) : Shape × Progress :=
  if maxDepth < path.length then (.unknown, { p with log := p.log ++ [tooDeep path] })
  else match v with
    | .null => (.unknown, p)
    | .bool b => ({ type := .name (Primitive.of (.bool b)).name }, p)
    | .int n => ({ type := .name (Primitive.of (.int n)).name }, p)
    | .float x => ({ type := .name (Primitive.of (.float x)).name }, p)
    | .str t => ({ type := .name (Primitive.of (.str t)).name }, p)
    | .arr xs =>
      if xs.isEmpty then (.emptyArray, p)
      else if xs.all isIdValuePair then
        let (value, p) := inferPairs s (path ++ [Name.marker 0, "value"]) p xs
        pairs s value p
      else
        let (shapes, p) := inferItems s path 0 p xs
        match Elements.of? shapes with
        | some e => (e.shape, p)
        | none => (.emptyArray, p)
    | .obj fs =>
      let (fields, p) := inferFields s path p fs
      let name := Name.recordName s.affixes path
      ({ type := .name name, fields := fields }, register p name fields path)

/-- the shapes of an array's items, which stand at the indices from `index` on -/
def inferItems (s : Settings) (path : Path) (index : Nat) (p : Progress) :
    List Json → List Shape × Progress
  | [] => ([], p)
  | x :: xs =>
    let (shape, p) := infer s (path ++ [Name.marker index]) p x
    let (shapes, p) := inferItems s path (index + 1) p xs
    (shape :: shapes, p)

/-- the shapes of a record's fields -/
def inferFields (s : Settings) (path : Path) (p : Progress) :
    List (String × Json) → List (String × Shape) × Progress
  | [] => ([], p)
  | (k, v) :: fs =>
    let (shape, p) := infer s (path ++ [k]) p v
    let (shapes, p) := inferFields s path p fs
    ((k, fieldShape s (path ++ [k]) v shape) :: shapes, p)

/-- the shape of the value of the first pair -/
def inferPairs (s : Settings) (path : Path) (p : Progress) : List Json → Shape × Progress
  | .obj fs :: _ => inferValue s path p fs
  | _ => (.unknown, p)

/-- the shape of the field `value` -/
def inferValue (s : Settings) (path : Path) (p : Progress) :
    List (String × Json) → Shape × Progress
  | [] => (.unknown, p)
  | (k, v) :: fs => if k = "value" then infer s path p v else inferValue s path p fs

end

end Infer

end SampleTypes
