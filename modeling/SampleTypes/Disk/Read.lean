import SampleTypes.Disk.Write

/-!
# Reading texts from a disk

A text file holds UTF-8, and each of its line ends counts as one LF.  A file that is no text as a
whole can still be read up to the block of bytes that shows its flaw.

* `ReadFault`        the file cannot be read, or is no text;
* `Readable`         the characters of a text up to its flaw, if it has one;
* `Readable.lines`   its lines; a line that the flaw may be part of is none;
* `Disk.readable`    what can be read of a text file.
-/

namespace SampleTypes

inductive ReadFault where
  | refused (f : Failure)
  | notText (f : Text.DecodeFault)
  deriving DecidableEq, Repr

/-- the characters of a text up to its flaw, if it has one -/
structure Readable where
  chars : List Char
  flaw : Option Text.DecodeFault := none
  deriving DecidableEq, Repr

/-- the characters of the bytes of a text file -/
def Text.ofFile (bytes : List Nat) : Except Text.DecodeFault (List Char) :=
  (Text.decode .utf8 bytes).map Text.unifyLineEnds

/-- the bytes that are read at once -/
def Text.blockSize : Nat := 8192

/-- whether the bytes are the start of a surrogate, which only its third byte settles -/
def Text.startsSurrogate : List Nat → Bool
  | 0xed :: b :: _ => 0xa0 ≤ b && b ≤ 0xbf
  | _ => false

/-- the offset of the byte that shows a flaw, or the number of bytes if their end does -/
def Text.DecodeFault.shownAt (f : DecodeFault) (bytes : List Nat) : Nat :=
  match f.flaw with
  | .continuationByte =>
    if startsSurrogate (bytes.drop f.start) then min (f.start + 2) bytes.length
    else f.start + f.length
  | .endOfData => bytes.length
  | _ => f.start

/-- the bytes of the blocks before the one that shows a flaw -/
def Text.DecodeFault.soundBytes (f : DecodeFault) (bytes : List Nat) : List Nat :=
  if f.shownAt bytes < bytes.length then
    bytes.take (blockSize * (f.shownAt bytes / blockSize))
  else bytes

/-- the characters of some pieces up to the first flaw -/
def Text.charsOf : List Text.Piece → List Char
  | .char c _ :: ps => c :: charsOf ps
  | _ => []

/-- the characters without a CR at their end, after which an LF may come -/
def Text.dropOpenEnd (cs : List Char) : List Char :=
  if cs.getLast? = some '\r' then cs.dropLast else cs

namespace Readable

/-- what can be read of bytes: the blocks before the one that shows their first flaw -/
def ofBytes (bytes : List Nat) : Readable :=
  match Text.ofFile bytes with
  | .ok cs => { chars := cs }
  | .error f =>
    let cs := Text.charsOf (Text.pieces .utf8 (f.soundBytes bytes))
    { chars := Text.unifyLineEnds (Text.dropOpenEnd cs), flaw := some f }

/-- the lines of a text; with a flaw, those that end before it -/
def lines (r : Readable) : List (List Char) :=
  if r.flaw.isNone then Text.lines r.chars else (Text.lines r.chars).dropLast

/-- the whole text, unless it has a flaw -/
def whole (r : Readable) : Except Text.DecodeFault (List Char) :=
  match r.flaw with
  | none => .ok r.chars
  | some f => .error f

end Readable

namespace Disk

/-- what can be read of a text file -/
def readable (d : Disk) (p : Pathname) : Except Failure Readable :=
  match d.bytes p with
  | .error r => .error ⟨r, p⟩
  | .ok bs => .ok (.ofBytes bs)

end Disk

end SampleTypes
