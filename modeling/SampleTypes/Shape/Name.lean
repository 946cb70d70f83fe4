import SampleTypes.Shape.Basic

/-!
# Names of record types

A record type is named after the path that leads to it.

* `isArrayMarker s`   brackets around digits, or around nothing: a step into an array;
* `pascalCase s`      a key as a name: runs of ASCII letters and digits, each capitalised;
* `Affixes`           what is put before and after every name;
* `recordName a p`    the name for the record at a path.
-/

namespace SampleTypes

/-- what is put before and after every generated name -/
structure Affixes where
  lead : String := ""
  trail : String := ""
  deriving DecidableEq, Repr

/-- a name between the affixes -/
def Affixes.around (a : Affixes) (name : String) : String := a.lead ++ name ++ a.trail

namespace Name

/-- the characters of a marker after its opening bracket -/
def isMarkerTail (cs : List Char) : Bool :=
  let rest := cs.dropWhile Text.isDigit
  rest == [']'] || rest == [']', '\n']

/-- digits, or nothing, between brackets; a line end after them is overlooked -/
def isArrayMarker (segment : String) : Bool :=
  match segment.toList with
  | '[' :: cs => isMarkerTail cs
  | _ => false

/-- the marker of the item at an index -/
def marker (index : Nat) : String := "[" ++ toString index ++ "]"

def toUpperAscii (c : Char) : Char :=
  if Text.isAsciiLower c then Char.ofNat (c.toNat - 32) else c

def toLowerAscii (c : Char) : Char :=
  if Text.isAsciiUpper c then Char.ofNat (c.toNat + 32) else c

/-- the capitalised runs of a key; `inRun` tells whether a run is going on.  Brackets are
overlooked, and every other character that is no ASCII letter or digit ends a run. -/
def pascalFrom (inRun : Bool) : List Char → List Char
  | [] => []
  | c :: cs =>
    if Text.isAsciiAlnum c then
      (if inRun then toLowerAscii c else toUpperAscii c) :: pascalFrom true cs
    else if c = '[' ∨ c = ']' then pascalFrom inRun cs
    else pascalFrom false cs

/-- a key as a name -/
def pascalCase (segment : String) : String :=
  String.ofList (pascalFrom false segment.toList)

/-- whether a list occurs in another one without gaps -/
def occursIn (part : List Char) : List Char → Bool
  | [] => part.isEmpty
  | c :: cs => part.isPrefixOf (c :: cs) || occursIn part cs

/-- the name of the last key of a path -/
def fragment (key : String) : String :=
  let name := pascalCase key
  if name = "" then "Item" else name

/-- the name of a record below the key `key`, itself below `parent` -/
def nested (parent key : String) : String :=
  if parent = "campground" then "Campground" ++ fragment key
  else if occursIn "Info".toList parent.toList then fragment key ++ "Info"
  else fragment key

/-- the name of a record without affixes, from the keys that lead to it, last one first -/
def plain : List String → String
  | [] => "Hit"
  | [key] => fragment key
  | key :: parent :: _ => nested parent key

/-- the keys of a path, last one first, without the steps into arrays -/
def keysOf (path : Path) : List String :=
  (path.filter fun segment => !isArrayMarker segment).reverse

/-- the name for the record at a path -/
def recordName (affixes : Affixes) (path : Path) : String :=
  affixes.around (plain (keysOf path))

/-- the name of the generic type of pairs of an id and a value -/
def idValueName (affixes : Affixes) : String := affixes.lead ++ "IdValue"

theorem pascalFrom_bracket (inRun : Bool) (cs : List Char) :
    pascalFrom inRun ('[' :: cs) = pascalFrom inRun cs ∧
      pascalFrom inRun (']' :: cs) = pascalFrom inRun cs := by
  constructor <;> simp [pascalFrom, show Text.isAsciiAlnum '[' = false from rfl,
    show Text.isAsciiAlnum ']' = false from rfl]

end Name

end SampleTypes
