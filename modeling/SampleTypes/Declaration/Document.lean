import SampleTypes.Declaration.Order
import SampleTypes.Sample.Merge
import SampleTypes.Shape.Infer
import SampleTypes.Text.Blank
import SampleTypes.Text.Case

/-!
# The document of declarations

* `summary`           what a type is, read off its name: words, the first one capitalised;
* `docComment t`      a text as a comment;
* `valueSetText`      the declaration of a value set as a union of literals;
* `header n`          the comment at the head of a document;
* `document`          the declarations of a registry in an order, between header and value sets;
* `generate`          the document for some samples, with the log of its making.
-/

namespace SampleTypes.Declaration

/-- a space before every ASCII capital -/
def spaced (cs : List Char) : List Char :=
  cs.flatMap fun c => if Text.isAsciiUpper c then [' ', c] else [c]

/-- the characters without those of `affix` at the start; an empty affix changes nothing -/
def dropLead (affix cs : List Char) : List Char :=
  if affix.isPrefixOf cs then cs.drop affix.length else cs

/-- the characters without those of `affix` at the end -/
def dropTrail (affix cs : List Char) : List Char :=
  (dropLead affix.reverse cs.reverse).reverse

/-- the words of a name without its affixes -/
def bareWords (a : Affixes) (name : String) : List Char :=
  spaced (dropTrail a.trail.toList (dropLead a.lead.toList name.toList))

/-- what a type is, read off its name -/
def summary (a : Affixes) (name : String) : String :=
  let words := Text.lower (Text.trim (String.ofList (bareWords a name)))
  Text.upperFirst words ++ " structure in Algolia"

/-- a text as a comment -/
def docComment (text : String) : String := "/**\n * " ++ text ++ "\n */"

/-- the name of the declaration for the value set at a path -/
def valueSetName (a : Affixes) (path : Path) : String :=
  a.around (String.join (path.map Name.pascalCase) ++ "Values")

/-- a value set as a union of literals, under a comment that names its place -/
def valueSetText (a : Affixes) (v : ValueSet) : String :=
  docComment ("Observed values of " ++ v.dotted) ++ "\nexport type " ++ valueSetName a v.path ++
    " = " ++ TypeExpr.joinTexts " | " (v.values.map Json.text) ++ ";"

/-- the comment at the head of a document -/
def header (indexName : String) : String :=
  "/**\n * Generated TypeScript types for Algolia index: " ++ indexName ++
    "\n * This file is auto-generated. Do not edit manually.\n */"

/-- a declaration under its comment -/
def declarationBlock (a : Affixes) (d : TypeDecl) : String :=
  docComment (summary a d.name) ++ "\n" ++ d.body

/-- the blocks of a document, or the first name that is not registered -/
def blocks (r : Registry) (order : List String) (indexName : String) (a : Affixes)
    (valueSets : List ValueSet) : Except String (List String) := do
  let generic := match r.idValueName with
    | some n => if n = "" then [] else [idValueText n]
    | none => []
  let types ← order.mapM fun name =>
    match r.get? name with
    | some d => .ok (declarationBlock a d)
    | none => .error name
  return header indexName :: generic ++ types ++ valueSets.map (valueSetText a)

/-- the text of a document, or the first name that is not registered -/
def document (r : Registry) (order : List String) (indexName : String) (a : Affixes)
    (valueSets : List ValueSet) : Except String String := do
  return TypeExpr.joinTexts "\n\n" (← blocks r order indexName a valueSets) ++ "\n"

/-- what a document is made for: the index it names, the affixes, and whether value sets are
declared too -/
structure Target where
  indexName : String
  affixes : Affixes := {}
  enums : Bool := false

def inferred (root : String) (types samples : Nat) : Entry :=
  { level := .debug,
    text := "Inferred " ++ root ++ " with " ++ toString types ++ " types from " ++
      toString samples ++ " samples" }

/-- the document for some samples, and the log of its making.  Every name in the emission order
is registered, so the document always exists. -/
def generate (samples : List Json) (target : Target) : String × Log :=
  let merged := mergeSamples samples
  let settings : Settings := ⟨target.affixes, nullablePaths samples⟩
  let (root, progress) := Infer.infer settings [] {} merged.record
  let registry := progress.registry
  let entry := inferred root.type.text registry.size samples.length
  let valueSets := if target.enums then merged.valueSets else []
  let text := document registry (emissionOrder registry.bodies) target.indexName target.affixes
    valueSets
  (text.toOption.getD "", progress.log ++ [entry])

end SampleTypes.Declaration
