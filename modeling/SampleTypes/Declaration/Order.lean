import SampleTypes.Declaration.Body
import SampleTypes.Distinct

/-!
# The order of declarations

A declaration refers to another one when its text holds the other's name as an identifier.
Declarations are put in order by a depth-first search, so that each stands after those it refers
to; a reference back to a declaration that is still being visited is passed over.

* `identifiers cs`     the identifiers of a text, in order;
* `Graph.ofBodies bs`  the references between declarations;
* `Graph.visit`        the search from one name;
* `Graph.order`        the order from some roots;
* `emissionOrder bs`   the order of all declarations.
-/

namespace SampleTypes.Declaration

/-- the identifiers of a text, `word` being the one begun before it, last character first -/
def identifiersFrom : List Char → List Char → List (List Char)
  | [], [] => []
  | word, [] => [word.reverse]
  | [], c :: cs => if isIdentStart c then identifiersFrom [c] cs else identifiersFrom [] cs
  | d :: word, c :: cs =>
    if isIdentPart c then identifiersFrom (c :: d :: word) cs
    else (d :: word).reverse :: identifiersFrom [] cs

/-- the identifiers of a text -/
def identifiers (text : String) : List String :=
  (identifiersFrom [] text.toList).map String.ofList

/-- for every name the names it refers to, in the order of their first mention -/
structure Graph where
  edges : List (String × List String)

namespace Graph

/-- the names that a text refers to -/
def references (names : List String) (name body : String) : List String :=
  distinct ((identifiers body).filter fun t => t != name && names.contains t)

/-- the references between the declarations with these texts -/
def ofBodies (bodies : List (String × String)) : Graph :=
  ⟨bodies.map fun (name, body) => (name, references (Fields.names bodies) name body)⟩

def nodes (g : Graph) : List String := Fields.names g.edges

def contains (g : Graph) (name : String) : Bool := g.nodes.contains name

/-- the names that a name refers to -/
def dependencies (g : Graph) (name : String) : List String := (g.edges.lookup name).getD []

/-- the names in order, with those added that a search from `name` finds.  `pending`
holds the names whose visit has not ended. -/
def visit (g : Graph) : Nat → List String → List String → String → List String
  | 0, _, ordered, _ => ordered
  | steps + 1, pending, ordered, name =>
    if pending.contains name || ordered.contains name then ordered
    else (g.dependencies name).foldl (g.visit steps (name :: pending)) ordered ++ [name]

/-- the order from some roots; a root that is no node is passed over -/
def orderFrom (g : Graph) (roots : List String) : List String :=
  (roots.filter g.contains).foldl (g.visit (g.nodes.length + 1) []) []

/-- the order from some roots, or from all nodes -/
def order (g : Graph) (roots : Option (List String)) : List String :=
  g.orderFrom (roots.getD g.nodes)

end Graph

/-- the order of the declarations with these texts -/
def emissionOrder (bodies : List (String × String)) : List String :=
  (Graph.ofBodies bodies).order none

theorem identifiersFrom_nil : identifiersFrom [] [] = [] := by simp [identifiersFrom]

theorem Graph.nodes_ofBodies (bodies : List (String × String)) :
    (Graph.ofBodies bodies).nodes = Fields.names bodies := by
  simp [Graph.nodes, Graph.ofBodies, Fields.names, Function.comp_def]

end SampleTypes.Declaration
