import SampleTypes.Yaml.Graph
import SampleTypes.Yaml.Layout

/-!
# The graph of a YAML document

Tokens are put together to scalars, sequences and mappings.  An alias stands for the node with its
anchor, which has to be the only one of that name and to start before it; so an alias inside a
collection can stand for the collection.

* `Build`        the tokens that are left, and the nodes so far;
* `Builder`      a part that is built, from the tokens that are left;
* `document?`    the graph of a text's only document, and its root; a text may have none.
-/

namespace SampleTypes.Yaml

structure Build where
  left : List Token
  /-- what is wrong after the tokens that are left -/
  fault : Option Fault := none
  graph : Graph := {}
  anchors : List (String × Nat) := []
  handles : List (String × String) := []

abbrev Builder := StateT Build (Except Fault)

namespace Builder

/-- the next token, unless there is a fault in its place -/
def peek : Builder Token := do
  let b ← get
  match b.left, b.fault with
  | t :: _, _ => return t
  | [], some f => throw f
  | [], none => return .streamEnd

def drop : Builder Unit := modify fun b => { b with left := b.left.drop 1 }

def malformed {α : Type} : Builder α := throw .malformed

/-- whether the next token is one of some -/
def at_ (ts : List Token) : Builder Bool := return ts.contains (← peek)

/-- a tag in full -/
def fullTag (handle : Option String) (suffix : String) : Builder String := do
  match handle with
  | none => return suffix
  | some h => match (← get).handles.lookup h with
    | some lead => return lead ++ suffix
    | none => malformed

def anchor? : Builder (Option String) := do
  match ← peek with
  | .anchor n => drop; return some n
  | _ => return none

/-- a tag as it is written -/
def tag? : Builder (Option (Option String × String)) := do
  match ← peek with
  | .tag handle suffix => drop; return some (handle, suffix)
  | _ => return none

/-- an anchor and a tag before a node, in either order, as they are written -/
def written : Builder (Option String × Option (Option String × String)) := do
  match ← anchor? with
  | some a => return (some a, ← tag?)
  | none =>
    match ← tag? with
    | some t => return (← anchor?, some t)
    | none => return (none, none)

/-- a node's anchor and its tag in full -/
structure Properties where
  anchor : Option String := none
  tag : Option String := none

def Properties.isEmpty (p : Properties) : Bool := p.anchor.isNone && p.tag.isNone

/-- an anchor and a tag before a node -/
def properties : Builder Properties := do
  let (anchor, tag) ← written
  match tag with
  | none => return { anchor }
  | some (handle, suffix) => return { anchor, tag := some (← fullTag handle suffix) }

/-- the tag that is given, unless it is an exclamation mark alone, which says nothing -/
def Properties.tag? (p : Properties) : Option String := p.tag.filter (· != "!")

/-- the tag of a scalar: a given one, or the one for its form unless it is quoted or a block; an
exclamation mark alone makes it count as plain -/
def Properties.scalarTag (p : Properties) (plain : Bool) (text : String) : String :=
  p.tag?.getD (if plain || p.tag.isSome then formTag text else Tag.text)

/-- a node put into the graph, under its anchor -/
def add (p : Properties) (tag : String) (content : Content) : Builder Nat := do
  let b ← get
  let i := b.graph.size
  let anchors := match p.anchor with
    | some a => (a, i) :: b.anchors
    | none => b.anchors
  set { b with graph := b.graph.add ⟨tag, content⟩, anchors }
  return i

def scalar (p : Properties) (plain : Bool) (text : String) : Builder Nat :=
  add p (p.scalarTag plain text) (.scalar text)

/-- the scalar that stands where nothing is written -/
def absent (p : Properties) : Builder Nat := scalar p true ""

/-- the scalar without properties where nothing is written -/
def empty : Builder Nat := absent {}

/-- the content of a collection that was put into the graph before -/
def fill (i : Nat) (content : Content) : Builder Nat := do
  modify fun b => { b with graph := b.graph.setContent i content }
  return i

/-- a sequence that is still without items -/
def openSequence (p : Properties) : Builder Nat :=
  add p (p.tag?.getD Tag.sequence) (.sequence [])

/-- a mapping that is still without entries -/
def openMapping (p : Properties) : Builder Nat := add p (p.tag?.getD Tag.mapping) (.mapping [])

/-- a failure where an anchor is taken -/
def checkAnchor (p : Properties) : Builder Unit := do
  let _ ← peek
  let b ← get
  if p.anchor.any fun a => (b.anchors.lookup a).isSome then malformed

/-- the node of an alias -/
def remembered (name : String) : Builder Nat := do
  match (← get).anchors.lookup name with
  | some i => return i
  | none => malformed

mutual

/-- a node; `block` and `indentless` tell whether indented collections and sequences without
indentation of their own may stand here -/
def node (block indentless : Bool) : Nat → Builder Nat
  | 0 => malformed
  | steps + 1 => do
    match ← peek with
    | .alias name => drop; remembered name
    | _ =>
      let p ← properties
      checkAnchor p
      content block indentless p steps

/-- a node after its properties, which alone make an empty scalar -/
def content (block indentless : Bool) (p : Properties) : Nat → Builder Nat
  | 0 => malformed
  | steps + 1 => do
    let nothing : Builder Nat := if p.isEmpty then malformed else absent p
    match ← peek with
    | .scalar plain text => drop; scalar p plain text
    | .flowSequenceStart =>
      drop
      let i ← openSequence p
      fill i (.sequence (← flowItems true steps))
    | .flowMappingStart =>
      drop
      let i ← openMapping p
      fill i (.mapping (← flowEntries true steps))
    | .item =>
      if indentless then
        let i ← openSequence p
        fill i (.sequence (← indentlessItems steps))
      else nothing
    | .blockSequenceStart =>
      if block then
        drop
        let i ← openSequence p
        fill i (.sequence (← blockItems steps))
      else nothing
    | .blockMappingStart =>
      if block then
        drop
        let i ← openMapping p
        fill i (.mapping (← blockEntries steps))
      else nothing
    | _ => nothing

/-- a node, or the empty scalar before one of some tokens -/
def nodeUnless (block indentless : Bool) (ends : List Token) : Nat → Builder Nat
  | 0 => malformed
  | steps + 1 => do if ← at_ ends then empty else node block indentless steps

/-- the value after a value mark, or the empty scalar without one -/
def valueUnless (block indentless : Bool) (ends : List Token) : Nat → Builder Nat
  | 0 => malformed
  | steps + 1 => do
    if ← at_ [.value] then
      drop
      nodeUnless block indentless ends steps
    else empty

def blockItems : Nat → Builder (List Nat)
  | 0 => malformed
  | steps + 1 => do
    match ← peek with
    | .item =>
      drop
      let x ← nodeUnless true false [.item, .blockEnd] steps
      return x :: (← blockItems steps)
    | .blockEnd => drop; return []
    | _ => malformed

def indentlessItems : Nat → Builder (List Nat)
  | 0 => malformed
  | steps + 1 => do
    match ← peek with
    | .item =>
      drop
      let x ← nodeUnless true false [.item, .key, .value, .blockEnd] steps
      return x :: (← indentlessItems steps)
    | _ => return []

def blockEntries : Nat → Builder (List Entry)
  | 0 => malformed
  | steps + 1 => do
    match ← peek with
    | .key =>
      drop
      let k ← nodeUnless true true [.key, .value, .blockEnd] steps
      let v ← valueUnless true true [.key, .value, .blockEnd] steps
      return (k, v) :: (← blockEntries steps)
    | .blockEnd => drop; return []
    | _ => malformed

/-- an item between brackets; a pair is a mapping of its own -/
def flowItem : Nat → Builder Nat
  | 0 => malformed
  | steps + 1 => do
    match ← peek with
    | .key =>
      drop
      let k ← nodeUnless false false [.value, .entry, .flowSequenceEnd] steps
      let v ← valueUnless false false [.entry, .flowSequenceEnd] steps
      let i ← openMapping {}
      fill i (.mapping [(k, v)])
    | _ => node false false steps

/-- the items up to the closing bracket, with a comma before all but the first -/
def flowItems (first : Bool) : Nat → Builder (List Nat)
  | 0 => malformed
  | steps + 1 => do
    if ← at_ [.flowSequenceEnd] then
      drop
      return []
    if !first then
      if ← at_ [.entry] then drop else malformed
    if ← at_ [.flowSequenceEnd] then
      drop
      return []
    let x ← flowItem steps
    return x :: (← flowItems false steps)

/-- an entry between braces; a node alone is a key -/
def flowEntry : Nat → Builder Entry
  | 0 => malformed
  | steps + 1 => do
    match ← peek with
    | .key =>
      drop
      let k ← nodeUnless false false [.value, .entry, .flowMappingEnd] steps
      let v ← valueUnless false false [.entry, .flowMappingEnd] steps
      return (k, v)
    | _ =>
      let k ← node false false steps
      return (k, ← empty)

/-- the entries up to the closing brace, with a comma before all but the first -/
def flowEntries (first : Bool) : Nat → Builder (List Entry)
  | 0 => malformed
  | steps + 1 => do
    if ← at_ [.flowMappingEnd] then
      drop
      return []
    if !first then
      if ← at_ [.entry] then drop else malformed
    if ← at_ [.flowMappingEnd] then
      drop
      return []
    let e ← flowEntry steps
    return e :: (← flowEntries false steps)

end

/-! ## documents -/

/-- the handles that need no declaration -/
def standardHandles : List (String × String) := [("!", "!"), ("!!", "tag:yaml.org,2002:")]

/-- the directives before a document: one version at most, and one declaration a handle -/
def directives (versioned : Bool) : List Token → Build → Except Fault Build
  | .directive (.version major) :: ts, b =>
    if versioned || major != 1 then .error .malformed else directives true ts { b with left := ts }
  | .directive (.tagHandle handle lead) :: ts, b =>
    if (b.handles.lookup handle).isSome then .error .malformed
    else directives versioned ts { b with left := ts, handles := (handle, lead) :: b.handles }
  | .directive .other :: ts, b => directives versioned ts { b with left := ts }
  | _, b => .ok { b with handles := b.handles ++ standardHandles }

/-- the marks of document ends passed over -/
def dropEnds : Builder Unit :=
  modify fun b => { b with left := b.left.dropWhile (· == .documentEnd) }

def isDirective : Token → Bool
  | .directive _ => true
  | _ => false

/-- steps enough for the tokens: every other step takes one -/
def stepsFor (b : Build) : Nat := 4 * b.left.length + 8

def rootNode : Builder Nat := do node true false (stepsFor (← get))

/-- a document after its directives and its start mark -/
def explicitDocument : Builder Nat := do
  let b ← get
  set (← directives false b.left b)
  if ← at_ [.documentStart] then drop else malformed
  let t ← peek
  if isDirective t || t == .documentStart || t == .documentEnd || t == .streamEnd then
    empty
  else rootNode

/-- the first document, unless there is none -/
def firstDocument : Builder (Option Nat) := do
  let t ← peek
  if t == .streamEnd then return none
  if isDirective t || t == .documentStart then return some (← explicitDocument)
  modify fun b => { b with handles := standardHandles }
  return some (← rootNode)

/-- what follows the first document, which has to be the only one -/
def nothingElse : Builder Unit := do
  dropEnds
  if ← at_ [.streamEnd] then return
  let b ← get
  set (← directives false b.left { b with handles := [] })
  let _ ← peek
  malformed

end Builder

/-- the graph of the only document that a cursor stands before, and its root; there may be none -/
def document? (c : Cursor) : Except Fault (Option (Nat × Graph)) := do
  let ts := tokens c
  let build : Builder (Option Nat) := do
    let root ← Builder.firstDocument
    Builder.nothingElse
    return root
  let (root, b) ← build.run { left := ts.list, fault := ts.fault }
  return root.map fun i => (i, b.graph)

end SampleTypes.Yaml
