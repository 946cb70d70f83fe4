import SampleTypes.Json.Printer
import SampleTypes.Shape.Name

/-!
# The text of one declaration

* `isIdentifier k`      whether a key can stand without quotes;
* `keyText k`           a key as it stands in a declaration: bare, or as a string literal;
* `fieldType s`         the type of a field, with `| null` where null was seen;
* `fieldLine k s`       the line of a field;
* `interfaceText n fs`  the declaration of a record type, its fields sorted by key;
* `idValueText n`       the declaration of the generic type of id and value.
-/

namespace SampleTypes.Declaration

/-- ASCII letters, the underscore and the dollar sign -/
def isIdentStart (c : Char) : Bool := Text.isAsciiLetter c || c == '_' || c == '$'

/-- word characters of every script, and the dollar sign -/
def isIdentPart (c : Char) : Bool := Text.isWord c || c == '$'

/-- an identifier; a line end after it is overlooked -/
def isIdentifierChars : List Char → Bool
  | [] => false
  | c :: cs =>
    let rest := cs.dropWhile isIdentPart
    isIdentStart c && (rest == [] || rest == ['\n'])

/-- whether a key can stand without quotes -/
def isIdentifier (key : String) : Bool := isIdentifierChars key.toList

/-- a key as it stands in a declaration -/
def keyText (key : String) : String := if isIdentifier key then key else Text.literal key

/-- the type of a field without its null -/
def arrayType (s : Shape) : String :=
  if s.isArray && !s.type.isArrayText then s.type.text ++ "[]" else s.type.text

/-- the type of a field, with null where null was seen -/
def fieldType (s : Shape) : String :=
  let t := arrayType s
  if s.isNullable && t != "unknown" && t != "null" then t ++ " | null" else t

/-- the mark of a field that may be missing or null -/
def optionalMark (s : Shape) : String := if s.isOptional || s.isNullable then "?" else ""

/-- the line of a field -/
def fieldLine (key : String) (s : Shape) : String :=
  "  " ++ keyText key ++ optionalMark s ++ ": " ++ fieldType s ++ ";"

/-- the lines of the fields, by key -/
def fieldLines (fields : List (String × Shape)) : List String :=
  (Fields.sorted fields).map fun (k, s) => fieldLine k s

/-- the declaration of a record type -/
def interfaceText (name : String) (fields : List (String × Shape)) : String :=
  TypeExpr.joinTexts "\n"
    (("export interface " ++ name ++ " \x7b") :: fieldLines fields ++ ["\x7d"])

/-- the declaration of the generic type of pairs of an id and a value -/
def idValueText (name : String) : String :=
  "export type " ++ name ++ "<T = string> = \x7b\n  id: string;\n  value: T;\n\x7d;"

theorem isIdentPart_of_isIdentStart {c : Char} (h : isIdentStart c = true) :
    isIdentPart c = true := by
  simp only [isIdentStart, Bool.or_eq_true] at h
  rcases h with (h | h) | h
  · simp [isIdentPart, Text.isWord, Text.isAsciiAlnum, h]
  · simp [isIdentPart, Text.isWord, h]
  · simp [isIdentPart, h]

end SampleTypes.Declaration
