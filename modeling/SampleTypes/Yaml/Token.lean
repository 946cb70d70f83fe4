import SampleTypes.Text.Decimal
import SampleTypes.Text.Decode
import SampleTypes.Yaml.Scalar

/-!
# Tokens of YAML texts

* `Token`        indicators, the marks of indentation, properties and scalars;
* `Directive`    what stands before a document;
* `anchorName`, `tagProperty`, `directive`   the readers of the parts of properties.
-/

namespace SampleTypes.Yaml

/-- a line before a document: the version's first number, or a short form for tags -/
inductive Directive where
  | version (major : Nat)
  | tagHandle (handle lead : String)
  | other
  deriving DecidableEq, Repr

inductive Token where
  | directive (d : Directive)
  | documentStart
  | documentEnd
  | streamEnd
  | blockSequenceStart
  | blockMappingStart
  | blockEnd
  | flowSequenceStart
  | flowSequenceEnd
  | flowMappingStart
  | flowMappingEnd
  | entry
  | item
  | key
  | value
  | alias (name : String)
  | anchor (name : String)
  | tag (handle : Option String) (suffix : String)
  | scalar (plain : Bool) (text : String)
  deriving DecidableEq, Repr

/-- a character of an anchor's, a directive's or a handle's name -/
def isNameChar (c : Char) : Bool := Text.isAsciiAlnum c || c == '-' || c == '_'

/-- a name at the cursor, and the cursor after it -/
def name (c : Cursor) : Except Fault (String × Cursor) :=
  match c.rest.takeWhile isNameChar with
  | [] => .error c.fault
  | n => .ok (String.ofList n, c.skip n.length)

/-- a space or the end of a line or the text -/
def isSpaceOrEnd (c : Char) : Bool := c == ' ' || endsLine c

def endsAnchor (c : Char) : Bool :=
  isGap c || c == '?' || c == ':' || c == ',' || c == ']' || c == '\x7d' || c == '%' ||
    c == '@' || c.toNat == 0x60

/-- the name of an anchor or an alias, at its mark -/
def anchorName (c : Cursor) : Except Fault (String × Cursor) := do
  let (n, c) ← name c.next
  if endsAnchor c.peek then return (n, c) else throw c.fault

/-! ## tags -/

/-- a character of a tag; a percent sign starts an encoded byte -/
def isTagChar (c : Char) : Bool :=
  Text.isAsciiAlnum c || "-;/?:@&=+$,_.!~*'()[]".toList.contains c

/-- the bytes of a run of encoded bytes -/
def encodedBytes : Nat → Cursor → Except Fault (List Nat × Cursor)
  | 0, c => .ok ([], c)
  | steps + 1, c =>
    if c.peek = '%' then
      match Text.hexNumber? ((c.rest.drop 1).take 2), (c.rest.drop 2).head? with
      | some b, some _ => do
        let (bs, c) ← encodedBytes steps (c.skip 3)
        return (b :: bs, c)
      | _, _ => .error (c.skip 3).fault
    else .ok ([], c)

/-- the characters of a tag as far as they go -/
def tagChars : Nat → Cursor → Read
  | 0, c => .ok ([], c)
  | steps + 1, c =>
    if c.peek = '%' then do
      let (bs, c) ← encodedBytes (c.rest.length + 1) c
      match Text.decode .utf8 bs with
      | .ok cs => (tagChars steps c).after cs
      | .error _ => .error .malformed
    else if isTagChar c.peek then (tagChars steps c.next).after [c.peek]
    else .ok ([], c)

/-- a tag's text, of one character at least -/
def tagText (c : Cursor) : Except Fault (String × Cursor) := do
  match ← tagChars (c.rest.length + 1) c with
  | ([], c) => throw c.fault
  | (cs, c) => return (String.ofList cs, c)

/-- a handle: an exclamation mark, or a name between two of them -/
def tagHandle (c : Cursor) : Except Fault (String × Cursor) :=
  if c.peek != '!' then .error c.fault
  else if c.ahead 1 = ' ' then .ok ("!", c.next)
  else
    let n := (c.rest.drop 1).takeWhile isNameChar
    if c.ahead (n.length + 1) = '!' then
      .ok (String.ofList ('!' :: n ++ ['!']), c.skip (n.length + 2))
    else .error (c.skip (n.length + 1)).fault

/-- whether a further exclamation mark stands in the word after the first one -/
def hasHandle (c : Cursor) : Bool :=
  ((c.rest.drop 1).takeWhile (!isSpaceOrEnd ·)).contains '!'

/-- a tag at its exclamation mark: in full between angle brackets, by a handle, or the mark
alone -/
def tagParts (c : Cursor) : Except Fault (Option String × String × Cursor) := do
  if c.ahead 1 = '<' then
    let (t, c) ← tagText (c.skip 2)
    if c.peek = '>' then return (none, t, c.next) else throw c.fault
  else if isGap (c.ahead 1) then return (none, "!", c.next)
  else if hasHandle c then
    let (handle, c) ← tagHandle c
    let (t, c) ← tagText c
    return (some handle, t, c)
  else
    let (t, c) ← tagText c.next
    return (some "!", t, c)

/-- a tag as a token -/
def tagProperty (c : Cursor) : Except Fault (Token × Cursor) := do
  let (handle, suffix, c) ← tagParts c
  if isSpaceOrEnd c.peek then return (.tag handle suffix, c) else throw c.fault

/-! ## directives -/

def skipSpaces (c : Cursor) : Cursor := c.skipWhile (· == ' ')

/-- a number at the cursor, and the cursor after it -/
def number (c : Cursor) : Except Fault (Nat × Cursor) :=
  match c.rest.takeWhile Text.isAsciiDigit with
  | [] => .error c.fault
  | ds => .ok (Text.natOfDigits ds, c.skip ds.length)

/-- the version of a document -/
def versionDirective (c : Cursor) : Except Fault (Directive × Cursor) := do
  let (major, c) ← number (skipSpaces c)
  if c.peek != '.' then throw c.fault
  let (_, c) ← number c.next
  if isSpaceOrEnd c.peek then return (.version major, c) else throw c.fault

/-- a short form for tags -/
def handleDirective (c : Cursor) : Except Fault (Directive × Cursor) := do
  let (handle, c) ← tagHandle (skipSpaces c)
  if c.peek != ' ' then throw c.fault
  let (lead, c) ← tagText (skipSpaces c)
  if isSpaceOrEnd c.peek then return (.tagHandle handle lead, c) else throw c.fault

/-- a directive at its percent sign, and the cursor after its line -/
def directive (c : Cursor) : Except Fault (Directive × Cursor) := do
  let (n, c) ← name c.next
  if !isSpaceOrEnd c.peek then throw c.fault
  let (d, c) ←
    if n = "YAML" then versionDirective c
    else if n = "TAG" then handleDirective c
    else .ok (.other, c.skipWhile (!endsLine ·))
  return (d, ← c.skipLine)

end SampleTypes.Yaml
