import SampleTypes.Yaml.Tag

/-!
# The nodes of a YAML document as a graph

Nodes are numbered, and a collection holds the numbers of its nodes.  So a node can stand in
several places, and even inside itself.

* `Content`, `Node`   a scalar, a sequence or a mapping, with its tag;
* `Graph`             the nodes by number; `add` puts in a node, `set` replaces one.
-/

namespace SampleTypes.Yaml

/-- a key of a mapping with its value, by their numbers -/
abbrev Entry := Nat × Nat

inductive Content where
  | scalar (text : String)
  | sequence (items : List Nat)
  | mapping (entries : List Entry)
  deriving DecidableEq, Repr

structure Node where
  tag : String
  content : Content
  deriving DecidableEq, Repr

structure Graph where
  nodes : Array Node := #[]

namespace Graph

def size (g : Graph) : Nat := g.nodes.size

def node? (g : Graph) (i : Nat) : Option Node := g.nodes[i]?

/-- the graph with one node more, whose number is the size before -/
def add (g : Graph) (n : Node) : Graph := ⟨g.nodes.push n⟩

/-- the graph with another node in the place of one -/
def set (g : Graph) (i : Nat) (n : Node) : Graph := ⟨g.nodes.setIfInBounds i n⟩

def tag (g : Graph) (i : Nat) : String := ((g.node? i).map (·.tag)).getD ""

def content (g : Graph) (i : Nat) : Content := ((g.node? i).map (·.content)).getD (.scalar "")

/-- the entries of a mapping; other nodes have none -/
def entries (g : Graph) (i : Nat) : List Entry :=
  match g.content i with
  | .mapping es => es
  | _ => []

def setContent (g : Graph) (i : Nat) (c : Content) : Graph := g.set i ⟨g.tag i, c⟩

def setEntries (g : Graph) (i : Nat) (es : List Entry) : Graph := g.setContent i (.mapping es)

def setTag (g : Graph) (i : Nat) (t : String) : Graph := g.set i ⟨t, g.content i⟩

end Graph

end SampleTypes.Yaml
