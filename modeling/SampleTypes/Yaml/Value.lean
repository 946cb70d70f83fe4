import SampleTypes.Yaml.Document
import SampleTypes.Yaml.Merge

/-!
# The data of YAML texts

Values are made level by level.  A collection is empty at first and waits to be filled after those
that were met before it, so that of several faults the outermost one counts, and a collection can
be a part of itself.

* `Made`        what a node stands for; the items of a collection by their numbers;
* `Maker`       a step in which nodes are made; `make` makes one, `fill` fills a collection;
* `dataOf`      the data of a node that is made;
* `read`        the data of a text.
-/

namespace SampleTypes.Yaml

/-- what a node stands for -/
inductive Made where
  | value (v : Data)
  | list (items : List Nat)
  /-- a list of keys with their values, which no setting takes -/
  | pairs (count : Nat)
  | set (members : List Key)
  | mapping (entries : List (Key × Nat))

/-- the empty collection of a tag; other tags have none -/
def Made.empty? (tag : String) : Option Made :=
  if tag = Tag.sequence then some (.list [])
  else if tag = Tag.orderedMap ∨ tag = Tag.pairs then some (.pairs 0)
  else if tag = Tag.set then some (.set [])
  else if tag = Tag.mapping then some (.mapping [])
  else none

structure Making where
  graph : Graph
  /-- what is made so far, by the numbers of the nodes -/
  made : Array (Option Made)
  /-- the collections that are still to be filled -/
  waiting : List Nat := []

namespace Making

def ofGraph (g : Graph) : Making := ⟨g, Array.replicate g.size none, []⟩

def made? (m : Making) (i : Nat) : Option Made := (m.made[i]?).join

def put (m : Making) (i : Nat) (v : Made) : Making :=
  { m with made := m.made.setIfInBounds i (some v) }

end Making

/-- the text of a scalar, or of the value under the default key of a mapping -/
def textOf (g : Graph) : Nat → Nat → Except Fault String
  | 0, _ => .error .malformed
  | steps + 1, i =>
    match g.content i with
    | .scalar s => .ok s
    | .sequence _ => .error .malformed
    | .mapping es =>
      match es.find? fun e => g.tag e.1 == Tag.default with
      | some e => textOf g steps e.2
      | none => .error .malformed

/-- the value of a node that is no collection by its tag -/
def singleValue (g : Graph) (i : Nat) : Except Fault Data := do
  let s ← textOf g (g.size + 1) i
  if g.isMapping i && g.tag i == Tag.time then throw (.noValue .timeInMapping)
  scalarValue (g.tag i) s

abbrev Maker := StateT Making (Except Fault)

namespace Maker

def malformed {α : Type} : Maker α := throw .malformed

/-- a node made, unless it is made already -/
def make (i : Nat) : Maker Unit := do
  let m ← get
  if (m.made? i).isNone then
    match Made.empty? (m.graph.tag i) with
    | some e => set { m.put i e with waiting := m.waiting ++ [i] }
    | none =>
      match singleValue m.graph i with
      | .ok v => set (m.put i (.value v))
      | .error f => throw f

/-- a node made as a key; collections can be none -/
def makeKey (i : Nat) : Maker Key := do
  make i
  match (← get).made? i with
  | some (.value v) =>
    match v.key? with
    | some k => return k
    | none => malformed
  | _ => malformed

/-- some nodes made one after the other -/
def makeAll : List Nat → Maker Unit
  | [] => return
  | i :: is => do
    make i
    makeAll is

/-- the entries of a mapping made one after the other -/
def makeEntries : List Entry → Maker (List (Key × Nat))
  | [] => return []
  | (k, v) :: es => do
    let key ← makeKey k
    make v
    return (key, v) :: (← makeEntries es)

/-- the entries of a node that has to be a mapping, after those that it takes from others -/
def flatEntries (i : Nat) : Maker (List (Key × Nat)) := do
  let m ← get
  if m.graph.isMapping i then
    match m.graph.flatten i with
    | .ok graph =>
      set { m with graph }
      makeEntries (graph.entries i)
    | .error f => throw f
  else malformed

/-- mappings of one entry each, their keys and values made one after the other -/
def makePairs : List Nat → Maker Unit
  | [] => return
  | i :: is => do
    match (← get).graph.content i with
    | .mapping [(k, v)] =>
      make k
      make v
      makePairs is
    | _ => malformed

/-- the items of a node that has to be a sequence -/
def items (i : Nat) : Maker (List Nat) := do
  match (← get).graph.content i with
  | .sequence is => return is
  | _ => malformed

/-- what a collection holds, in the place of the empty one -/
def filled (i : Nat) : Made → Maker Made
  | .list _ => do
    let is ← items i
    makeAll is
    return .list is
  | .pairs _ => do
    let is ← items i
    makePairs is
    return .pairs is.length
  | .set _ => return .set (Data.membersOfKeys ((← flatEntries i).map (·.1)))
  | .mapping _ => return .mapping (Key.ofPairs (← flatEntries i))
  | .value v => return .value v

/-- a collection filled -/
def fill (i : Nat) : Maker Unit := do
  match (← get).made? i with
  | some e =>
    let v ← filled i e
    modify fun m => m.put i v
  | none => return

/-- the waiting collections filled, up to a number of them -/
def fillAll : Nat → Maker Unit
  | 0 => return
  | n + 1 => do
    let m ← get
    match m.waiting with
    | [] => return
    | i :: waiting =>
      set { m with waiting }
      fill i
      fillAll n

/-- a node made with everything in it: each collection waits once at most -/
def makeWhole (i : Nat) : Maker Unit := do
  make i
  fillAll (← get).graph.size

end Maker

/-- the data of a node, by at most so many steps down; a collection inside itself, on the way that
led to it, has no data of its own -/
def dataOf (m : Making) (way : List Nat) : Nat → Nat → Data
  | 0, _ => .other "dict" none
  | steps + 1, i =>
    if way.contains i then .other "dict" none
    else match m.made? i with
      | some (.value v) => v
      | some (.list is) => .list (is.map (dataOf m (i :: way) steps))
      | some (.pairs n) => .list (List.replicate n (.other "tuple" none))
      | some (.set ks) => .set ks
      | some (.mapping es) => .mapping (es.map fun e => (e.1, dataOf m (i :: way) steps e.2))
      | none => .null

/-- the data of a graph from a node on -/
def Graph.data (g : Graph) (root : Nat) : Except Fault Data := do
  let (_, m) ← (Maker.makeWhole root).run (.ofGraph g)
  return dataOf m [] (g.size + 1) root

/-- the data of a text; a text without a document holds null -/
def read (r : Readable) : Except Fault Data := do
  match ← document? (.start r) with
  | some (root, g) => g.data root
  | none => return .null

end SampleTypes.Yaml
