import SampleTypes.Json.Value
import SampleTypes.Number.Shortest
import SampleTypes.Text.Decimal
import SampleTypes.Text.Quoted

/-!
# Configuration data

What a configuration file holds before it is checked.  Beside the values of JSON there are
bytes, sets, and values of other kinds, such as dates, of which only the kind matters; and the keys
of a mapping need not be texts.

* `Key`            a key; `Key.same` is the equality of keys within a mapping;
* `Key.ofPairs`    the entries of a mapping from pairs;
* `Data`           the values; a mapping keeps the order of its keys;
* `Data.ofJson`    the data of a JSON value.
-/

namespace SampleTypes

/-- a key of a mapping; of a key of another kind only its shown form is known -/
inductive Key where
  | null
  | bool (b : Bool)
  | int (n : Int)
  | float (x : Double)
  | text (s : String)
  | bytes (bs : List Nat)
  /-- a time in a known zone, by its microsecond -/
  | moment (instant : Int) (shown : String)
  | other (shown : String)
  deriving DecidableEq, Repr

namespace Key

/-- the number that a key counts as: truth counts as one, falsehood as zero -/
def number? : Key → Option Int
  | .bool b => some (if b then 1 else 0)
  | .int n => some n
  | .float x => x.toInt?
  | _ => none

/-- whether two keys are one key of a mapping: numbers are compared by value, and times in known
zones by their instant -/
def same (a b : Key) : Bool :=
  match a, b with
  | .moment m _, .moment n _ => m == n
  | a, b => match a.number?, b.number? with
    | some m, some n => m == n
    | _, _ => a == b

/-- the entries with a value put under a key: in the place of the same key, or at the end -/
def put {α : Type} (k : Key) (v : α) : List (Key × α) → List (Key × α)
  | [] => [(k, v)]
  | (k', v') :: es => if k'.same k then (k', v) :: es else (k', v') :: put k v es

/-- the entries of a mapping from pairs: a repeated key keeps its first place and form and takes
the last value -/
def ofPairs {α : Type} (ps : List (Key × α)) : List (Key × α) :=
  ps.foldl (fun es p => put p.1 p.2 es) []

/-- the form of an integer; one of too many digits has none -/
def shownInt (n : Int) : String :=
  if Double.tenTo Text.digitCeiling ≤ n.natAbs then "<unprintable int object>" else toString n

/-- the form of a byte between quotation marks -/
def shownByte (q : Char) (b : Nat) : List Char :=
  if 0x7f ≤ b then '\\' :: 'x' :: Text.hexFixed 2 b else Text.quotedChar q (Char.ofNat b)

def shownBytes (bs : List Nat) : String :=
  let q := Text.quoteMark (bs.map Char.ofNat)
  String.ofList ('b' :: q :: bs.flatMap (shownByte q) ++ [q])

/-- the form of a key in the place of a problem -/
def shown : Key → String
  | .null => "None"
  | .bool b => if b then "1" else "0"
  | .int n => shownInt n
  | .float x => x.text ⟨"nan", "inf"⟩
  | .text s => s
  | .bytes bs => shownBytes bs
  | .moment _ s => s
  | .other s => s

end Key

inductive Data where
  | null
  | bool (b : Bool)
  | int (n : Int)
  | float (x : Double)
  | text (s : String)
  | list (items : List Data)
  | mapping (entries : List (Key × Data))
  | bytes (bs : List Nat)
  | set (members : List Key)
  /-- a value of another kind, with the key that it is, unless it can be none -/
  | other (kind : String) (key : Option Key)
  deriving Inhabited

namespace Data

/-- the name of a value's kind in messages -/
def kindName : Data → String
  | .null => "NoneType"
  | .bool _ => "bool"
  | .int _ => "int"
  | .float _ => "float"
  | .text _ => "str"
  | .list _ => "list"
  | .mapping _ => "dict"
  | .bytes _ => "bytes"
  | .set _ => "set"
  | .other kind _ => kind

/-- a value as a key; lists, sets and mappings can be none -/
def key? : Data → Option Key
  | .null => some .null
  | .bool b => some (.bool b)
  | .int n => some (.int n)
  | .float x => some (.float x)
  | .text s => some (.text s)
  | .list _ => none
  | .mapping _ => none
  | .bytes bs => some (.bytes bs)
  | .set _ => none
  | .other _ key => key

/-- a key as a value -/
def ofKey : Key → Data
  | .null => .null
  | .bool b => .bool b
  | .int n => .int n
  | .float x => .float x
  | .text s => .text s
  | .bytes bs => .bytes bs
  | .moment n s => .other "datetime" (some (.moment n s))
  | .other s => .other "other" (some (.other s))

/-- the members of a set from keys, each once -/
def membersOfKeys (ks : List Key) : List Key :=
  (Key.ofPairs (ks.map fun k => (k, ()))).map (·.1)

mutual

/-- the data of a JSON value -/
def ofJson : Json → Data
  | .null => .null
  | .bool b => .bool b
  | .int n => .int n
  | .float x => .float x
  | .str s => .text s
  | .arr xs => .list (ofItems xs)
  | .obj fs => .mapping (ofFields fs)

def ofItems : List Json → List Data
  | [] => []
  | x :: xs => ofJson x :: ofItems xs

def ofFields : List (String × Json) → List (Key × Data)
  | [] => []
  | (k, v) :: fs => (.text k, ofJson v) :: ofFields fs

end

end Data

end SampleTypes
