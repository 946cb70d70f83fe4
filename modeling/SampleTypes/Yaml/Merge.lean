import SampleTypes.Yaml.Graph

/-!
# Merge keys

A merge key asks for the entries of another mapping, or of several, of which the first one goes
before the others.  The entries that are taken over stand before the own ones of a mapping, so that
the own ones count where keys are the same.

* `ownDefaults`   the key with the default value counts as a text among the entries of a mapping;
* `firstMerge?`   the first merge key of a mapping, with the graph without it;
* `flatten`       the graph in which a mapping and those that it takes from have no merge keys.
-/

namespace SampleTypes.Yaml

namespace Graph

/-- the graph where the keys with default values are texts among these entries -/
def ownDefaults (g : Graph) : List Entry → Graph
  | [] => g
  | (k, _) :: es =>
    let g := if g.tag k = Tag.default then g.setTag k Tag.text else g
    g.ownDefaults es

def isMergeKey (g : Graph) (e : Entry) : Bool := g.tag e.1 == Tag.merge

/-- the source of the first merge key of a mapping, and the graph without that key -/
def firstMerge? (g : Graph) (i : Nat) : Option (Nat × Graph) :=
  let es := g.entries i
  match es.findIdx? g.isMergeKey with
  | none => none
  | some n => es[n]?.map fun e => (e.2, g.setEntries i (es.eraseIdx n))

/-- the number of merge keys of a mapping -/
def mergeCount (g : Graph) (i : Nat) : Nat := (g.entries i).countP g.isMergeKey

/-- the number of merge keys in a graph -/
def allMergeCount (g : Graph) : Nat :=
  (List.range g.size).foldl (fun n i => n + g.mergeCount i) 0

def isMapping (g : Graph) (i : Nat) : Bool :=
  match g.content i with
  | .mapping _ => true
  | _ => false

mutual

/-- the graph in which a mapping has no merge keys; the depth bounds how far sources have sources
of their own -/
def flattenTo (depth : Nat) (i : Nat) (g : Graph) : Except Fault Graph :=
  match depth with
  | 0 => .ok g
  | depth + 1 => do
    let g := g.ownDefaults (g.entries i)
    let (taken, g) ← takeMerges depth (g.mergeCount i) i g
    return g.setEntries i (taken ++ g.entries i)
termination_by (depth, 0, 0)

/-- the entries that the merge keys of a mapping ask for, up to a number of keys, and the graph
without these keys -/
def takeMerges (depth count : Nat) (i : Nat) (g : Graph) : Except Fault (List Entry × Graph) :=
  match count with
  | 0 => .ok ([], g)
  | count + 1 =>
    match g.firstMerge? i with
    | none => .ok ([], g)
    | some (source, g) => do
      let (es, g) ← sourceEntries depth source g
      let (more, g) ← takeMerges depth count i g
      return (es ++ more, g)
termination_by (depth, 3, count)

/-- the entries of a mapping, or of the mappings in a sequence -/
def sourceEntries (depth : Nat) (i : Nat) (g : Graph) : Except Fault (List Entry × Graph) :=
  match g.content i with
  | .scalar _ => .error .malformed
  | .mapping _ => do
    let g ← flattenTo depth i g
    return (g.entries i, g)
  | .sequence items => itemEntries depth items g
termination_by (depth, 2, 0)

/-- the entries of some mappings, those of the last one first -/
def itemEntries (depth : Nat) (items : List Nat) (g : Graph) : Except Fault (List Entry × Graph) :=
  match items with
  | [] => .ok ([], g)
  | i :: items =>
    if g.isMapping i then do
      let g ← flattenTo depth i g
      let (more, g') ← itemEntries depth items g
      return (more ++ g.entries i, g')
    else .error .malformed
termination_by (depth, 1, items.length)

end

/-- the graph in which a mapping has no merge keys -/
def flatten (g : Graph) (i : Nat) : Except Fault Graph := g.flattenTo (g.allMergeCount + 1) i

end Graph

end SampleTypes.Yaml
