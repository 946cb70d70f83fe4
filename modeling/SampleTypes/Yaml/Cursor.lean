import SampleTypes.Disk.Read
import SampleTypes.Yaml.Fault

/-!
# A place in a YAML text

Line ends are LF, NEL and the two separators; a text holds neither CR nor null characters, so
that the null character can stand for the end of the text.

A text is looked at in blocks, and a block that cannot be read, or that holds a character that
may not stand in a text, counts only when reading gets to it.

* `Cursor`        the characters that are left, with their place;
* `Cursor.start`  the cursor at the start of what can be read of a text;
* `skip n`        the cursor `n` characters later;
* `lineEnd`       the line end at the cursor as it counts in a value;
* `fault`         what is wrong at the cursor, if something is.
-/

namespace SampleTypes.Yaml

/-- stands for the end of the text -/
def endMark : Char := '\x00'

def isLineEnd (c : Char) : Bool :=
  c == '\n' || c == '\x85' || c == '\u2028' || c == '\u2029'

/-- a space or a tab -/
def isInline (c : Char) : Bool := c == ' ' || c == '\t'

/-- a line end, or the end of the text -/
def endsLine (c : Char) : Bool := c == endMark || isLineEnd c

/-- what must follow an indicator: white space or the end of the text -/
def isGap (c : Char) : Bool := isInline c || endsLine c

structure Cursor where
  rest : List Char
  /-- the characters before -/
  index : Nat := 0
  line : Nat := 0
  column : Nat := 0
  /-- what is wrong after the characters that are left, if that is not the end of the text -/
  flaw : Option Fault := none

namespace Cursor

/-- the character some way ahead -/
def ahead (c : Cursor) (n : Nat) : Char := (c.rest.drop n).headD endMark

/-- the character at the cursor -/
def peek (c : Cursor) : Char := c.rest.headD endMark

/-- the cursor one character later; a byte order mark takes no column -/
def next (c : Cursor) : Cursor :=
  match c.rest with
  | [] => c
  | ch :: rest =>
    if isLineEnd ch then { c with rest, index := c.index + 1, line := c.line + 1, column := 0 }
    else
      let column := if ch = '\ufeff' then c.column else c.column + 1
      { c with rest, index := c.index + 1, column }

/-- the cursor some characters later -/
def skip : Nat → Cursor → Cursor
  | 0, c => c
  | n + 1, c => skip n c.next

/-- the cursor after the characters in a class -/
def skipWhile (p : Char → Bool) (c : Cursor) : Cursor := c.skip (c.rest.takeWhile p).length

/-- the line end at the cursor as it counts in a value, which is LF for NEL, and the cursor
after it -/
def lineEnd (c : Cursor) : List Char × Cursor :=
  let ch := c.peek
  if ch = '\n' ∨ ch = '\x85' then (['\n'], c.next)
  else if isLineEnd ch then ([ch], c.next)
  else ([], c)

/-- whether a line that separates documents starts here -/
def atSeparator (c : Cursor) : Bool :=
  ("---".toList.isPrefixOf c.rest || "...".toList.isPrefixOf c.rest) && isGap (c.ahead 3)

/-- the cursor after spaces and a comment -/
def skipComment (c : Cursor) : Cursor :=
  let c := c.skipWhile (· == ' ')
  if c.peek = '#' then c.skipWhile (!endsLine ·) else c

/-- what is wrong at a cursor where the text should go on in another way: it is malformed, unless
it cannot be read any further -/
def fault (c : Cursor) : Fault := if c.rest.isEmpty then c.flaw.getD .malformed else .malformed

/-- a failure where the text cannot be read any further, although it has not ended -/
def reach (c : Cursor) : Except Fault Unit :=
  match c.rest, c.flaw with
  | [], some f => .error f
  | _, _ => .ok ()

/-- the cursor after the rest of a line that holds nothing but a comment -/
def skipLine (c : Cursor) : Except Fault Cursor :=
  let c := c.skipComment
  if endsLine c.peek then .ok c.lineEnd.2 else .error c.fault

/-! ## blocks -/

/-- the characters of the first look, and of each further one -/
def firstLook : Nat := 8192
def look : Nat := 4096

/-- whether a character may stand in a text -/
def isAllowed (c : Char) : Bool :=
  let n := c.toNat
  n == 9 || n == 10 || n == 13 || (0x20 ≤ n && n ≤ 0x7e) || n == 0x85 ||
    (0xa0 ≤ n && n ≤ 0xd7ff) || (0xe000 ≤ n && n ≤ 0xfffd) || 0x10000 ≤ n

/-- the characters in whole looks -/
def wholeLooks (n : Nat) : Nat := if n < firstLook then 0 else n - n % look

/-- the characters before a flaw that comes after `n` characters; the last of them is not passed
without a look at what follows -/
def before (n : Nat) (f : Fault) (cs : List Char) : Cursor :=
  { rest := cs.take (wholeLooks n - 1), flaw := some f }

/-- a cursor at the start of what can be read of a text -/
def ofReadable (r : Readable) : Cursor :=
  let cs := match r.flaw with
    | none => r.chars
    | some _ => r.chars.take (wholeLooks r.chars.length)
  let sound := (cs.takeWhile isAllowed).length
  if sound < cs.length then before sound .malformed cs
  else match r.flaw with
    | none => { rest := cs }
    | some f => before cs.length (.notText f) cs

/-- the cursor after a byte order mark, if one stands there -/
def skipMark (c : Cursor) : Cursor := if c.peek = '\ufeff' then c.next else c

/-- the cursor at the start of what can be read of a text, after its byte order mark -/
def start (r : Readable) : Cursor := (ofReadable r).skipMark

end Cursor

end SampleTypes.Yaml
