import SampleTypes.Json.Value
import SampleTypes.Number.Shortest
import SampleTypes.Text.Literal

/-!
# JSON texts

* `text v`       one line, fields in their order, in ASCII;
* `canonical v`  the same with the fields of every object sorted by name, so that values that
                 differ only in the order of fields have one text;
* `indented v`   one item or field a line, indented by two spaces a level.

The text of a leaf, `leaf`, is common to the three.
-/

namespace SampleTypes.Json

/-- the floating-point values that are no numbers -/
def specials : Double.Specials := ⟨"NaN", "Infinity"⟩

/-- the texts with a separator between each two -/
def joinWith (sep : List Char) : List (List Char) → List Char
  | [] => []
  | [t] => t
  | t :: ts => t ++ sep ++ joinWith sep ts

/-- the field texts of an object on one line -/
def fieldChars (p : String × List Char) : List Char :=
  Text.literalChars p.1.toList ++ [':', ' '] ++ p.2

def bracketed (ts : List (List Char)) : List Char := '[' :: joinWith [',', ' '] ts ++ [']']

def braced (ts : List (String × List Char)) : List Char :=
  '\x7b' :: joinWith [',', ' '] (ts.map fieldChars) ++ ['\x7d']

def boolChars (b : Bool) : List Char := if b then "true".toList else "false".toList

mutual

/-- the text of a value on one line, with the fields of each object put in order by `arrange` -/
def chars (arrange : List (String × List Char) → List (String × List Char)) : Json → List Char
  | .null => "null".toList
  | .bool b => boolChars b
  | .int n => (toString n).toList
  | .float x => (x.text specials).toList
  | .str s => Text.literalChars s.toList
  | .arr xs => bracketed (charsOfItems arrange xs)
  | .obj fs => braced (arrange (charsOfFields arrange fs))

def charsOfItems (arrange : List (String × List Char) → List (String × List Char)) :
    List Json → List (List Char)
  | [] => []
  | x :: xs => chars arrange x :: charsOfItems arrange xs

def charsOfFields (arrange : List (String × List Char) → List (String × List Char)) :
    List (String × Json) → List (String × List Char)
  | [] => []
  | (k, v) :: fs => (k, chars arrange v) :: charsOfFields arrange fs

end

/-- the text of a value on one line -/
def text (v : Json) : String := String.ofList (chars id v)

/-- the text of a value with sorted fields -/
def canonical (v : Json) : String := String.ofList (chars Fields.sorted v)

/-- a line end and the indentation of a level -/
def newLine (level : Nat) : List Char := '\n' :: List.replicate (2 * level) ' '

/-- a bracketed block of lines one level deeper, or the bare brackets -/
def block (level : Nat) (opening closing : Char) : List (List Char) → List Char
  | [] => [opening, closing]
  | ts => opening :: newLine (level + 1) ++ joinWith (',' :: newLine (level + 1)) ts ++
      newLine level ++ [closing]

mutual

def indentedChars (level : Nat) : Json → List Char
  | .arr xs => block level '[' ']' (indentedItems (level + 1) xs)
  | .obj fs => block level '\x7b' '\x7d' (indentedFields (level + 1) fs)
  | v => chars id v

def indentedItems (level : Nat) : List Json → List (List Char)
  | [] => []
  | x :: xs => indentedChars level x :: indentedItems level xs

def indentedFields (level : Nat) : List (String × Json) → List (List Char)
  | [] => []
  | (k, v) :: fs => fieldChars (k, indentedChars level v) :: indentedFields level fs

end

/-- the text of a value over several lines -/
def indented (v : Json) : String := String.ofList (indentedChars 0 v)

theorem joinWith_cons_cons (sep t u : List Char) (ts : List (List Char)) :
    joinWith sep (t :: u :: ts) = t ++ sep ++ joinWith sep (u :: ts) := rfl

theorem charsOfItems_eq_map (f : List (String × List Char) → List (String × List Char))
    (xs : List Json) : charsOfItems f xs = xs.map (chars f) := by
  induction xs with
  | nil => simp [charsOfItems]
  | cons x xs ih => simp [charsOfItems, ih]

theorem charsOfFields_eq_map (f : List (String × List Char) → List (String × List Char))
    (fs : List (String × Json)) :
    charsOfFields f fs = fs.map fun p => (p.1, chars f p.2) := by
  induction fs with
  | nil => simp [charsOfFields]
  | cons p fs ih => obtain ⟨k, v⟩ := p; simp [charsOfFields, ih]

theorem chars_array (f : List (String × List Char) → List (String × List Char))
    (xs : List Json) : chars f (.arr xs) = bracketed (xs.map (chars f)) := by
  rw [chars, charsOfItems_eq_map]

theorem chars_record (f : List (String × List Char) → List (String × List Char)) (fs : Record) :
    chars f (.obj fs) = braced (f (fs.map fun p => (p.1, chars f p.2))) := by
  rw [chars, charsOfFields_eq_map]

end SampleTypes.Json
