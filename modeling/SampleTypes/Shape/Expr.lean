import SampleTypes.Text.Word

/-!
# Type expressions

The types that a declaration can mention, as syntax:

* `name n`      a basic type or the name of a declared one;
* `array t`     `t[]`;
* `union ts`    `(t1 | ... | tn)`;
* `apply g t`   `g<t>`, the generic `g` at `t`.

`text` is the written form; two expressions count as the same type when they are written alike.
-/

namespace SampleTypes

inductive TypeExpr where
  | name (n : String)
  | array (element : TypeExpr)
  | union (alternatives : List TypeExpr)
  | apply (generic : String) (argument : TypeExpr)
  deriving Inhabited

namespace TypeExpr

def unknown : TypeExpr := .name "unknown"

/-- texts with a separator between each two -/
def joinTexts (sep : String) : List String → String
  | [] => ""
  | [t] => t
  | t :: ts => t ++ sep ++ joinTexts sep ts

mutual

/-- the written form of a type -/
def text : TypeExpr → String
  | .name n => n
  | .array t => text t ++ "[]"
  | .union ts => "(" ++ joinTexts " | " (texts ts) ++ ")"
  | .apply g t => g ++ "<" ++ text t ++ ">"

def texts : List TypeExpr → List String
  | [] => []
  | t :: ts => text t :: texts ts

end

/-- whether a text ends with another one -/
def endsWith (ending s : String) : Bool := ending.toList.reverse.isPrefixOf s.toList.reverse

/-- whether a type is written as an array -/
def isArrayText (t : TypeExpr) : Bool := endsWith "[]" t.text

theorem texts_eq_map (ts : List TypeExpr) : texts ts = ts.map text := by
  induction ts with
  | nil => simp [texts]
  | cons t ts ih => simp [texts, ih]

theorem text_array (t : TypeExpr) : (TypeExpr.array t).text = t.text ++ "[]" := by simp [text]

theorem isArrayText_array (t : TypeExpr) : (TypeExpr.array t).isArrayText = true := by
  simp [isArrayText, endsWith, text, String.toList_append]

end TypeExpr

end SampleTypes
