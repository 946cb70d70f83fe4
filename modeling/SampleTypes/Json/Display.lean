import SampleTypes.Json.Printer
import SampleTypes.Text.Quoted

/-!
# Values in log entries

A log entry shows a text as it is, and any other value in a form of its own: null and the truth
values as `None`, `True` and `False`, and the texts inside lists and records in quotes.
-/

namespace SampleTypes.Json

mutual

/-- the form of a value inside another one -/
def displayPart : Json → String
  | .null => "None"
  | .bool b => if b then "True" else "False"
  | .int n => toString n
  | .float x => x.text ⟨"nan", "inf"⟩
  | .str s => Text.quoted s
  | .arr xs => "[" ++ String.intercalate ", " (displayItems xs) ++ "]"
  | .obj fs => "\x7b" ++ String.intercalate ", " (displayFields fs) ++ "\x7d"

def displayItems : List Json → List String
  | [] => []
  | x :: xs => displayPart x :: displayItems xs

def displayFields : List (String × Json) → List String
  | [] => []
  | (k, v) :: fs => (Text.quoted k ++ ": " ++ displayPart v) :: displayFields fs

end

/-- the form of a value in a log entry -/
def display : Json → String
  | .str s => s
  | v => displayPart v

end SampleTypes.Json
