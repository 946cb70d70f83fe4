import SampleTypes.Number.Double
import SampleTypes.Text.Hex
import SampleTypes.Yaml.Cursor

/-!
# The texts of scalars

* `quoted`   between quotes; a line end counts as a space, and further ones as themselves;
* `block`    an indented block, with its line ends or folded like a quoted text;
* `plain`    without marks, up to a comment, a colon before a gap, or less indentation.

Each reader gives the text and the cursor after it.  Loops are bounded by the characters that
are left, of which every round takes one.
-/

namespace SampleTypes.Yaml

/-- a text read and the cursor after it -/
abbrev Read := Except Fault (List Char × Cursor)

/-- what is read with characters put before it -/
def Read.after (cs : List Char) (r : Read) : Read := r.map fun (t, c) => (cs ++ t, c)

/-- what a line end counts as, with the further line ends after it -/
def folded (lineEnd more : List Char) : List Char :=
  (if lineEnd != ['\n'] then lineEnd else if more.isEmpty then [' '] else []) ++ more

/-! ## between quotes -/

/-- the line ends of blank lines in a quoted text, which no document separator may follow -/
def quotedLineEnds : Nat → Cursor → Read
  | 0, c => .ok ([], c)
  | steps + 1, c =>
    if c.atSeparator then .error .malformed
    else
      let c := c.skipWhile isInline
      match c.lineEnd with
      | ([], c) => .ok ([], c)
      | (e, c) => (quotedLineEnds steps c).after e

/-- the characters of short escapes -/
def shortEscapes : List (Char × Char) := [
  ('0', '\x00'), ('a', '\x07'), ('b', '\x08'), ('t', '\t'), ('\t', '\t'), ('n', '\n'),
  ('v', '\x0b'), ('f', '\x0c'), ('r', '\r'), ('e', '\x1b'), (' ', ' '), ('\x22', '\x22'),
  ('\\', '\\'), ('/', '/'), ('N', '\x85'), ('_', '\xa0'), ('L', '\u2028'), ('P', '\u2029')]

/-- the numbers of digits of code escapes -/
def codeEscapes : List (Char × Nat) := [('x', 2), ('u', 4), ('U', 8)]

/-- a character by its code; a surrogate has no character of its own -/
def codeChar (n : Nat) : Char :=
  if 0xd800 ≤ n ∧ n ≤ 0xdfff then Char.ofNat 0xfffd else Char.ofNat n

/-- codes from here on do not fit a machine's word with a sign -/
def codeBound : Nat := Double.twoTo 31

/-- the character of a code -/
def charOf (n : Nat) : Except Fault Char :=
  if codeBound ≤ n then .error (.noValue .tooLarge)
  else if 0x110000 ≤ n then .error (.noValue .noSuchValue)
  else .ok (codeChar n)

/-- the character of an escape with so many digits, at its first digit -/
def codeEscape (c : Cursor) (width : Nat) : Except Fault Char :=
  let digits := c.rest.take width
  match Text.hexNumber? digits with
  | none => .error .malformed
  | some n => if digits.length < width then .error (c.skip width).fault else charOf n

/-- what an escape stands for, at the cursor after its backslash -/
def escape (c : Cursor) : Read :=
  match shortEscapes.lookup c.peek with
  | some e => .ok ([e], c.next)
  | none => match codeEscapes.lookup c.peek with
    | some width => do
      let e ← codeEscape c.next width
      return ([e], c.skip (width + 1))
    | none =>
      if isLineEnd c.peek then quotedLineEnds c.rest.length c.lineEnd.2 else .error c.fault

/-- whether a character between quotes has no meaning of its own -/
def isInert (c : Char) : Bool := c != '\x27' && c != '\x22' && c != '\\' && !isGap c

/-- the characters of a quoted text up to white space or its end -/
def quotedWord (double : Bool) : Nat → Cursor → Read
  | 0, c => .ok ([], c)
  | steps + 1, c =>
    let run := c.rest.takeWhile isInert
    let c := c.skip run.length
    let ch := c.peek
    if !double && ch == '\x27' && c.ahead 1 == '\x27' then
      (quotedWord double steps (c.skip 2)).after (run ++ [ch])
    else if double && ch == '\x27' || !double && (ch == '\x22' || ch == '\\') then
      (quotedWord double steps c.next).after (run ++ [ch])
    else if double && ch == '\\' then do
      let (e, c) ← escape c.next
      (quotedWord double steps c).after (run ++ e)
    else .ok (run, c)

/-- the white space of a quoted text -/
def quotedSpace (c : Cursor) : Read :=
  let space := c.rest.takeWhile isInline
  let c := c.skip space.length
  if c.peek = endMark then .error c.fault
  else match c.lineEnd with
    | ([], c) => .ok (space, c)
    | (e, c) => do
      let (more, c) ← quotedLineEnds (c.rest.length + 1) c
      return (folded e more, c)

/-- words and white space up to the closing quote, and the cursor after it -/
def quotedRest (quote : Char) : Nat → Cursor → Read
  | 0, _ => .error .malformed
  | steps + 1, c =>
    if c.peek = quote then .ok ([], c.next)
    else do
      let (space, c) ← quotedSpace c
      let (word, c) ← quotedWord (quote == '\x22') (c.rest.length + 1) c
      (quotedRest quote steps c).after (space ++ word)

/-- a quoted text, at its opening quote -/
def quoted (c : Cursor) : Read := do
  let quote := c.peek
  let (word, c) ← quotedWord (quote == '\x22') (c.rest.length + 1) c.next
  (quotedRest quote (c.rest.length + 1) c).after word

/-! ## blocks -/

/-- what becomes of the line ends after a block: all are dropped, the first is kept, or all -/
inductive Chomping where
  | strip
  | clip
  | keep
  deriving DecidableEq, Repr

def chompingOf (c : Char) : Option Chomping :=
  if c = '-' then some .strip else if c = '+' then some .keep else none

/-- an indentation of one to nine -/
def widthOf (c : Char) : Except Fault (Option Nat) :=
  if '1' ≤ c ∧ c ≤ '9' then .ok (some (c.toNat - '0'.toNat))
  else if c = '0' then .error .malformed
  else .ok none

/-- the chomping and the indentation that the head of a block gives, in either order -/
def blockHead (c : Cursor) : Except Fault (Chomping × Option Nat × Cursor) := do
  match chompingOf c.peek with
  | some chomping =>
    let width ← widthOf c.next.peek
    return (chomping, width, c.skip (if width.isSome then 2 else 1))
  | none =>
    let width ← widthOf c.peek
    if width.isNone then return (.clip, none, c)
    match chompingOf c.next.peek with
    | some chomping => return (chomping, width, c.skip 2)
    | none => return (.clip, width, c.next)

/-- the line ends before a block whose indentation is not given, and the deepest column met -/
def leadingLines : Nat → Nat → Cursor → List Char × Nat × Cursor
  | 0, deepest, c => ([], deepest, c)
  | steps + 1, deepest, c =>
    if c.peek = ' ' then leadingLines steps (max deepest c.next.column) c.next
    else match c.lineEnd with
      | ([], c) => ([], deepest, c)
      | (e, c) =>
        let (more, deepest, c) := leadingLines steps deepest c
        (e ++ more, deepest, c)

/-- the cursor after the spaces up to a column -/
def skipTo (column : Nat) (c : Cursor) : Cursor :=
  c.skip (min (column - c.column) (c.rest.takeWhile (· == ' ')).length)

/-- the line ends of blank lines in a block, and the cursor at the next line's indentation -/
def blankLines (column : Nat) : Nat → Cursor → List Char × Cursor
  | 0, c => ([], c)
  | steps + 1, c =>
    let c := skipTo column c
    match c.lineEnd with
    | ([], c) => ([], c)
    | (e, c) =>
      let (more, c) := blankLines column steps c
      (e ++ more, c)

/-- what stands between a line and the next one of a block, before the blank lines -/
def joint (fold : Bool) (startsInline nextInline : Bool) (lineEnd blank : List Char) : List Char :=
  if fold && lineEnd == ['\n'] && !startsInline && !nextInline then
    if blank.isEmpty then [' '] else []
  else lineEnd

/-- the lines of a block from the cursor on, after the blank lines `blank`: the text, the last
line end, the blank lines after it, and the cursor after all -/
def blockLines (fold : Bool) (column : Nat) :
    Nat → List Char → Cursor → List Char × List Char × List Char × Cursor
  | 0, blank, c => ([], [], blank, c)
  | steps + 1, blank, c =>
    let line := c.rest.takeWhile (!endsLine ·)
    let (lineEnd, after) := (c.skip line.length).lineEnd
    let (more, after) := blankLines column (after.rest.length + 1) after
    if after.column = column && after.peek != endMark then
      let between := joint fold (isInline c.peek) (isInline after.peek) lineEnd more
      let (text, e, tail, c) := blockLines fold column steps more after
      (blank ++ line ++ between ++ text, e, tail, c)
    else (blank ++ line, lineEnd, more, after)

/-- a block, at its mark, inside an indentation -/
def block (indent : Int) (c : Cursor) : Read := do
  let fold := c.peek == '>'
  let (chomping, width, c) ← blockHead c.next
  if !(c.peek == ' ' || endsLine c.peek) then throw c.fault
  let c ← c.skipLine
  let least := (max (indent + 1) 1).toNat
  let (blank, column, c) :=
    match width with
    | some w =>
      let column := least + w - 1
      let (blank, c) := blankLines column (c.rest.length + 1) c
      (blank, column, c)
    | none =>
      let (blank, deepest, c) := leadingLines (c.rest.length + 1) 0 c
      (blank, max least deepest, c)
  let (text, lineEnd, tail, c) :=
    if c.column = column && c.peek != endMark then
      blockLines fold column (c.rest.length + 1) blank c
    else ([], [], blank, c)
  match chomping with
  | .strip => return (text, c)
  | .clip => return (text ++ lineEnd, c)
  | .keep => return (text ++ lineEnd ++ tail, c)

/-! ## plain texts -/

/-- the characters with a meaning inside brackets -/
def isFlowMark (c : Char) : Bool := c == ',' || c == '[' || c == ']' || c == '\x7b' || c == '\x7d'

/-- the characters of a plain text up to white space, a colon before a gap, or inside brackets a
mark -/
def plainWord (flow : Bool) : List Char → List Char
  | [] => []
  | c :: cs =>
    let next := cs.headD endMark
    if isGap c || c == ':' && (isGap next || flow && isFlowMark next) ||
        flow && (isFlowMark c || c == '?') then []
    else c :: plainWord flow cs

/-- the line ends of blank lines in a plain text, or nothing if a document separator follows -/
def plainLineEnds : Nat → Cursor → Option (List Char) × Cursor
  | 0, c => (some [], c)
  | steps + 1, c =>
    if c.peek = ' ' then plainLineEnds steps c.next
    else match c.lineEnd with
      | ([], c) => (some [], c)
      | (e, c) =>
        if c.atSeparator then (none, c)
        else
          let (more, c) := plainLineEnds steps c
          (more.map (e ++ ·), c)

/-- the white space of a plain text, empty where the text ends; whether it goes on to another
line; and the cursor after it -/
def plainSpace (c : Cursor) : List Char × Bool × Cursor :=
  let space := c.rest.takeWhile (· == ' ')
  let c := c.skip space.length
  match c.lineEnd with
  | ([], c) => (space, false, c)
  | (e, c) =>
    if c.atSeparator then ([], true, c)
    else match plainLineEnds (c.rest.length + 1) c with
      | (none, c) => ([], true, c)
      | (some more, c) => (folded e more, true, c)

/-- a plain text and the cursor after it, with whether that stands on a later line -/
structure PlainRead where
  text : List Char
  newLine : Bool
  cursor : Cursor

/-- the words of a plain text after the white space `space` -/
def plainWords (flow : Bool) (column : Int) : Nat → List Char → Bool → Cursor → PlainRead
  | 0, _, newLine, c => ⟨[], newLine, c⟩
  | steps + 1, space, newLine, c =>
    match if c.peek = '#' then [] else plainWord flow c.rest with
    | [] => ⟨[], newLine, c⟩
    | word =>
      let (after, newLine, c) := plainSpace (c.skip word.length)
      if after.isEmpty || c.peek == '#' || !flow && decide ((c.column : Int) < column) then
        ⟨space ++ word, newLine, c⟩
      else
        let r := plainWords flow column steps after newLine c
        { r with text := space ++ word ++ r.text }

/-- a plain text inside an indentation, and inside brackets or not -/
def plain (flow : Bool) (indent : Int) (c : Cursor) : PlainRead :=
  plainWords flow (indent + 1) (c.rest.length + 1) [] false c

end SampleTypes.Yaml
