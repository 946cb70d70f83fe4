import SampleTypes.Text.Base64
import SampleTypes.Yaml.Number
import SampleTypes.Yaml.Time

/-!
# Tags

A tag tells what kind of value a node has.  Every scalar has one: its own, or the one for the way
it is written.

* `standardTag`   the tag of a standard kind;
* `formTag`       the tag of a plain scalar without one;
* `scalarValue`   the value of a text under a tag.
-/

namespace SampleTypes.Yaml

/-- the tag of a standard kind -/
def standardTag (kind : String) : String := "tag:yaml.org,2002:" ++ kind

namespace Tag

def text : String := standardTag "str"
def null : String := standardTag "null"
def bool : String := standardTag "bool"
def int : String := standardTag "int"
def float : String := standardTag "float"
def time : String := standardTag "timestamp"
def binary : String := standardTag "binary"
def sequence : String := standardTag "seq"
def mapping : String := standardTag "map"
def set : String := standardTag "set"
def orderedMap : String := standardTag "omap"
def pairs : String := standardTag "pairs"

/-- the tag of keys that ask for the entries of other mappings -/
def merge : String := standardTag "merge"

/-- the tag of the key with the default value of a mapping -/
def default : String := standardTag "value"

end Tag

/-- a word in small letters, with a capital, or in capitals -/
def threeCases (w : String) : List String := [w, w.capitalize, w.map Char.toUpper]

/-- the words for truth values -/
def boolWords : List (String × Bool) :=
  [("yes", true), ("no", false), ("true", true), ("false", false), ("on", true), ("off", false)]

def isBoolForm (s : String) : Bool := boolWords.any fun w => (threeCases w.1).contains s

def isNullForm (s : String) : Bool := s == "" || s == "~" || (threeCases "null").contains s

/-- the tag of characters, the line end after them left out -/
def tagOfForm (cs : List Char) : String :=
  let s := String.ofList cs
  if isNullForm s then Tag.null
  else if isBoolForm s then Tag.bool
  else if isFloatForm cs then Tag.float
  else if isIntForm cs then Tag.int
  else if isTimeForm cs then Tag.time
  else if s == "<<" then Tag.merge
  else if s == "=" then Tag.default
  else Tag.text

/-- the tag of a plain scalar; a line end after its text is left out, unless it is all there is -/
def formTag (s : String) : String :=
  if s = "\n" then Tag.text else tagOfForm (dropLineEnd s.toList)

/-- a truth value by its word, in any letter case -/
def boolOf (s : String) : Except ValueFault Bool :=
  match boolWords.lookup (Text.lower s) with
  | some b => .ok b
  | none => .error .noSuchWord

/-- the bytes that a text writes in base 64 -/
def bytesOf (s : String) : Except Fault Data :=
  match if s.toList.all (·.toNat < 0x80) then Text.base64Bytes? s.toList else none with
  | some bs => .ok (.bytes bs)
  | none => .error .malformed

/-- the value of a text under a tag -/
def scalarValue (tag s : String) : Except Fault Data :=
  if tag = Tag.text then .ok (.text s)
  else if tag = Tag.null then .ok .null
  else if tag = Tag.bool then ((boolOf s).map .bool).mapError .noValue
  else if tag = Tag.int then ((intOf s).map .int).mapError .noValue
  else if tag = Tag.float then ((floatOf s).map .float).mapError .noValue
  else if tag = Tag.time then (timeOf s).mapError .noValue
  else if tag = Tag.binary then bytesOf s
  else .error .malformed

end SampleTypes.Yaml
