import SampleTypes.Yaml.Token

/-!
# The tokens of a YAML text

Tokens are found from left to right with the indentation in mind.  That a token is a key shows
only at the colon after it, so the places where a key may have started are remembered, one for
each level of brackets, and the marks of the key are put in there afterwards.

* `Layout`       the tokens so far, the open indentations and the candidates for keys;
* `Layout.step`  the layout after one more token;
* `Tokens`       the tokens of a text up to its end or to a fault.
-/

namespace SampleTypes.Yaml

/-- a place where a key may have started -/
structure Candidate where
  /-- the tokens before it -/
  number : Nat
  /-- whether a key has to start there: the token is the first of its line, at the indentation -/
  needed : Bool
  index : Nat
  line : Nat
  column : Nat

structure Layout where
  cursor : Cursor
  /-- the tokens so far, the last one first -/
  found : List Token := []
  /-- the innermost indentation, and those around it -/
  indent : Int := -1
  outer : List Int := []
  /-- how many brackets are open -/
  flow : Nat := 0
  /-- whether a key may start here -/
  keyAllowed : Bool := true
  /-- at most one candidate for each level of brackets -/
  candidates : List (Nat × Candidate) := []

namespace Layout

abbrev Result := Except Fault Layout

def emit (t : Token) (l : Layout) : Layout := { l with found := t :: l.found }

/-- a token put in with `number` tokens before it -/
def emitAt (number : Nat) (t : Token) (l : Layout) : Layout :=
  { l with found := l.found.insertIdx (l.found.length - number) t }

/-- the cursor moved over an indicator of `n` characters -/
def emitOver (n : Nat) (t : Token) (l : Layout) : Layout :=
  { l.emit t with cursor := l.cursor.skip n }

def inFlow (l : Layout) : Bool := l.flow != 0

/-! ## candidates -/

/-- the most characters between the start of a key and its colon -/
def keyCeiling : Nat := 1024

/-- whether a colon can no longer turn the candidate into a key -/
def isStale (l : Layout) (k : Candidate) : Bool :=
  k.line != l.cursor.line || keyCeiling < l.cursor.index - k.index

/-- the layout without stale candidates, none of which may be needed -/
def dropStale (l : Layout) : Result :=
  if l.candidates.any fun k => l.isStale k.2 && k.2.needed then .error .malformed
  else .ok { l with candidates := l.candidates.filter fun k => !l.isStale k.2 }

/-- the layout without the candidate of this level, which may not be needed -/
def dropCandidate (l : Layout) : Result :=
  match l.candidates.lookup l.flow with
  | some k =>
    if k.needed then .error .malformed
    else .ok { l with candidates := l.candidates.filter fun k => k.1 != l.flow }
  | none => .ok l

/-- the layout with the next token as a candidate, if a key may start here -/
def saveCandidate (l : Layout) : Result :=
  if l.keyAllowed then do
    let c := l.cursor
    let k : Candidate :=
      ⟨l.found.length, !l.inFlow && l.indent == (c.column : Int), c.index, c.line, c.column⟩
    let l ← l.dropCandidate
    return { l with candidates := (l.flow, k) :: l.candidates }
  else .ok l

/-! ## indentation -/

/-- the indentations deeper than a column ended, from the innermost one on -/
def unwindFrom (column : Int) : List Int → Layout → Layout
  | [], l => l
  | o :: outer, l =>
    if column < l.indent then
      unwindFrom column outer { l.emit .blockEnd with indent := o, outer }
    else l

/-- the indentations deeper than a column ended; between brackets there are none -/
def unwind (column : Int) (l : Layout) : Layout :=
  if l.inFlow then l else unwindFrom column l.outer l

/-- an indentation begun at a column, unless it is begun already, with its token put in at a
number -/
def indentAt (column : Nat) (number : Nat) (t : Token) (l : Layout) : Layout :=
  if l.indent < column then
    { l.emitAt number t with indent := column, outer := l.indent :: l.outer }
  else l

/-- an indentation begun at the cursor -/
def indentHere (t : Token) (l : Layout) : Layout :=
  l.indentAt l.cursor.column l.found.length t

/-! ## single tokens -/

/-- white space, comments and line ends passed over; a key may start on a new line -/
def skipToToken : Nat → Layout → Layout
  | 0, l => l
  | steps + 1, l =>
    match l.cursor.skipComment.lineEnd with
    | ([], c) => { l with cursor := c }
    | (_, c) => skipToToken steps { l with cursor := c, keyAllowed := l.keyAllowed || !l.inFlow }

def streamEnd (l : Layout) : Result := do
  let l ← (l.unwind (-1)).dropCandidate
  return l.emit .streamEnd

def directiveLine (l : Layout) : Result := do
  let l ← (l.unwind (-1)).dropCandidate
  let (d, c) ← directive l.cursor
  return { l.emit (.directive d) with cursor := c, keyAllowed := false }

def documentMark (t : Token) (l : Layout) : Result := do
  let l ← (l.unwind (-1)).dropCandidate
  return { l.emitOver 3 t with keyAllowed := false }

def flowStart (t : Token) (l : Layout) : Result := do
  let l ← l.saveCandidate
  return { l.emitOver 1 t with flow := l.flow + 1, keyAllowed := true }

/-- a closing bracket; one without an opening bracket is malformed -/
def flowEnd (t : Token) (l : Layout) : Result := do
  let l ← l.dropCandidate
  if l.flow = 0 then throw .malformed
  return { l.emitOver 1 t with flow := l.flow - 1, keyAllowed := false }

def flowEntry (l : Layout) : Result := do
  let l ← l.dropCandidate
  return { l.emitOver 1 .entry with keyAllowed := true }

def blockItem (l : Layout) : Result := do
  if !l.inFlow && !l.keyAllowed then throw .malformed
  let l := if l.inFlow then l else l.indentHere .blockSequenceStart
  let l ← l.dropCandidate
  return { l.emitOver 1 .item with keyAllowed := true }

def keyMark (l : Layout) : Result := do
  if !l.inFlow && !l.keyAllowed then throw .malformed
  let l := if l.inFlow then l else l.indentHere .blockMappingStart
  let l ← l.dropCandidate
  return { l.emitOver 1 .key with keyAllowed := !l.inFlow }

/-- a colon after a candidate, which it turns into a key -/
def valueAfter (k : Candidate) (l : Layout) : Layout :=
  let l := { l with candidates := l.candidates.filter fun k => k.1 != l.flow }
  let l := l.emitAt k.number .key
  let l := if l.inFlow then l else l.indentAt k.column k.number .blockMappingStart
  { l.emitOver 1 .value with keyAllowed := false }

def valueMark (l : Layout) : Result :=
  match l.candidates.lookup l.flow with
  | some k => .ok (l.valueAfter k)
  | none => do
    if !l.inFlow && !l.keyAllowed then throw .malformed
    let l := if l.inFlow then l else l.indentHere .blockMappingStart
    let l ← l.dropCandidate
    return { l.emitOver 1 .value with keyAllowed := !l.inFlow }

/-- an alias, an anchor or a tag -/
def property (read : Cursor → Except Fault (Token × Cursor)) (l : Layout) : Result := do
  let l ← l.saveCandidate
  let (t, c) ← read l.cursor
  return { l.emit t with cursor := c, keyAllowed := false }

/-- an alias or an anchor as a token -/
def named (token : String → Token) (c : Cursor) : Except Fault (Token × Cursor) :=
  (anchorName c).map fun (n, c) => (token n, c)

def quotedScalar (l : Layout) : Result := do
  let l ← l.saveCandidate
  let (cs, c) ← quoted l.cursor
  return { l.emit (.scalar false (String.ofList cs)) with cursor := c, keyAllowed := false }

def blockScalar (l : Layout) : Result := do
  let l ← l.dropCandidate
  let (cs, c) ← block l.indent l.cursor
  return { l.emit (.scalar false (String.ofList cs)) with cursor := c, keyAllowed := true }

def plainScalar (l : Layout) : Result := do
  let l ← l.saveCandidate
  let r := plain l.inFlow l.indent l.cursor
  return { l.emit (.scalar true (String.ofList r.text)) with
    cursor := r.cursor, keyAllowed := r.newLine }

/-! ## all tokens -/

/-- the characters that start no plain text -/
def isIndicator (c : Char) : Bool :=
  "-?:,[]\x7b\x7d#&*!|>'\"%@".toList.contains c || c.toNat == 0x60

/-- whether a plain text starts at the cursor -/
def startsPlain (l : Layout) : Bool :=
  let c := l.cursor.peek
  !isGap c && !isIndicator c ||
    !isGap (l.cursor.ahead 1) && (c == '-' || !l.inFlow && (c == '?' || c == ':'))

/-- whether an indicator stands here that counts before a gap, or anywhere between brackets -/
def isMark (ch : Char) (l : Layout) : Bool :=
  l.cursor.peek == ch && (l.inFlow || isGap (l.cursor.ahead 1))

/-- whether a line of three equal characters stands here -/
def isDocumentMark (mark : String) (l : Layout) : Bool :=
  l.cursor.column == 0 && mark.toList.isPrefixOf l.cursor.rest && isGap (l.cursor.ahead 3)

/-- the layout after the token at the cursor -/
def token (l : Layout) : Result :=
  let ch := l.cursor.peek
  if ch = endMark then l.streamEnd
  else if ch = '%' ∧ l.cursor.column = 0 then l.directiveLine
  else if l.isDocumentMark "---" then l.documentMark .documentStart
  else if l.isDocumentMark "..." then l.documentMark .documentEnd
  else if ch = '[' then l.flowStart .flowSequenceStart
  else if ch = '\x7b' then l.flowStart .flowMappingStart
  else if ch = ']' then l.flowEnd .flowSequenceEnd
  else if ch = '\x7d' then l.flowEnd .flowMappingEnd
  else if ch = ',' then l.flowEntry
  else if ch = '-' ∧ isGap (l.cursor.ahead 1) then l.blockItem
  else if l.isMark '?' then l.keyMark
  else if l.isMark ':' then l.valueMark
  else if ch = '*' then l.property (named .alias)
  else if ch = '&' then l.property (named .anchor)
  else if ch = '!' then l.property tagProperty
  else if (ch = '|' ∨ ch = '>') ∧ !l.inFlow then l.blockScalar
  else if ch = '\x27' ∨ ch = '\x22' then l.quotedScalar
  else if l.startsPlain then l.plainScalar
  else .error l.cursor.fault

/-- the layout after the next token, which is known to be whole only when something is read after
it -/
def step (l : Layout) : Result := do
  let l ← l.dropStale
  let l := l.skipToToken (l.cursor.rest.length + 1)
  l.cursor.reach
  let l ← l.dropStale
  let l ← (l.unwind l.cursor.column).token
  l.cursor.reach
  return l

/-- the number of tokens that are settled: a key may be put in before those that follow -/
def settled (l : Layout) : Nat :=
  ((l.candidates.filter fun k => !l.isStale k.2).map (·.2.number)).foldl min l.found.length

end Layout

/-- the tokens of a text up to its end or to a fault -/
structure Tokens where
  list : List Token
  fault : Option Fault := none
  deriving DecidableEq, Repr

namespace Layout

/-- the tokens that are settled before a fault -/
def upTo (f : Fault) (l : Layout) : Tokens := ⟨l.found.reverse.take l.settled, some f⟩

/-- the tokens from a layout on -/
def run : Nat → Layout → Tokens
  | 0, l => l.upTo .malformed
  | steps + 1, l =>
    match l.step with
    | .error f => l.upTo f
    | .ok l => if l.found.head? = some .streamEnd then ⟨l.found.reverse, none⟩ else run steps l

end Layout

/-- the tokens from a cursor on.  Every token but the last takes a character at least. -/
def tokens (c : Cursor) : Tokens := Layout.run (c.rest.length + 2) { cursor := c }

end SampleTypes.Yaml
