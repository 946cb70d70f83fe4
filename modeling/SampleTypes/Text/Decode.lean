import SampleTypes.Text.Hex

/-!
# Text and bytes

Bytes are cut into pieces: a character with the bytes that encode it, or a flaw with the bytes
that are given up for it.  Reading strictly stops at the first flaw; reading leniently puts the
replacement character in place of each.

* `pieces e bs`      the pieces of the bytes in an encoding;
* `decode e bs`      the text, or the first flaw with its place;
* `lenient bs`       the text with U+FFFD for flaws, from UTF-8;
* `Encoding.detect`  the encoding that the first bytes of a document show;
* `utf8 s`           the UTF-8 bytes of a text;
* `decodeDocument bs`  the text of a document in the encoding it shows; a surrogate on its own,
                       which no text can hold, passes there as the replacement character.
-/

namespace SampleTypes.Text

inductive Encoding where
  | utf8
  | utf16 (big : Bool)
  | utf32 (big : Bool)
  deriving DecidableEq, Repr

/-- the UTF-8 bytes of a text -/
def utf8 (s : String) : List Nat :=
  s.toList.flatMap fun c => (String.utf8EncodeChar c).map UInt8.toNat

/-- the name of an encoding in messages -/
def Encoding.name : Encoding → String
  | .utf8 => "utf-8"
  | .utf16 false => "utf-16-le"
  | .utf16 true => "utf-16-be"
  | .utf32 false => "utf-32-le"
  | .utf32 true => "utf-32-be"

/-- what is wrong with some bytes -/
inductive Flaw where
  | startByte
  | continuationByte
  | endOfData
  | truncated
  | loneSurrogate
  | outOfRange
  deriving DecidableEq, Repr

def Flaw.message : Flaw → String
  | .startByte => "invalid start byte"
  | .continuationByte => "invalid continuation byte"
  | .endOfData => "unexpected end of data"
  | .truncated => "truncated data"
  | .loneSurrogate => "illegal encoding"
  | .outOfRange => "code point not in range(0x110000)"

/-- a character or a flaw, with the number of bytes it takes -/
inductive Piece where
  | char (c : Char) (used : Nat)
  | flaw (f : Flaw) (used : Nat)

def Piece.used : Piece → Nat
  | .char _ n => n
  | .flaw _ n => n

/-- a continuation byte of UTF-8 -/
def isTail (b : Nat) : Bool := 0x80 ≤ b && b ≤ 0xbf

/-- the range of the second byte after a first byte of UTF-8 -/
def secondRange (b : Nat) : Nat × Nat :=
  if b = 0xe0 then (0xa0, 0xbf)
  else if b = 0xed then (0x80, 0x9f)
  else if b = 0xf0 then (0x90, 0xbf)
  else if b = 0xf4 then (0x80, 0x8f)
  else (0x80, 0xbf)

/-- a sequence of UTF-8 that wants `more` tails, after `used` good bytes of value `acc` -/
def utf8Tails (acc used : Nat) : Nat → List Nat → Piece
  | 0, _ => .char (Char.ofNat acc) used
  | _ + 1, [] => .flaw .endOfData used
  | more + 1, b :: bs =>
    if isTail b then utf8Tails (acc * 64 + (b - 0x80)) (used + 1) more bs
    else .flaw .continuationByte used

/-- a sequence of UTF-8 of `more` bytes after its first byte `b` -/
def utf8Sequence (b acc more : Nat) : List Nat → Piece
  | [] => .flaw .endOfData 1
  | b2 :: bs =>
    let (low, high) := secondRange b
    if low ≤ b2 && b2 ≤ high then utf8Tails (acc * 64 + (b2 - 0x80)) 2 (more - 1) bs
    else .flaw .continuationByte 1

/-- the first piece of UTF-8 bytes -/
def utf8Piece (b : Nat) (bs : List Nat) : Piece :=
  if b < 0x80 then .char (Char.ofNat b) 1
  else if b < 0xc2 then .flaw .startByte 1
  else if b < 0xe0 then utf8Sequence b (b - 0xc0) 1 bs
  else if b < 0xf0 then utf8Sequence b (b - 0xe0) 2 bs
  else if b < 0xf5 then utf8Sequence b (b - 0xf0) 3 bs
  else .flaw .startByte 1

/-- a number from two bytes -/
def join2 (big : Bool) (a b : Nat) : Nat := if big then a * 256 + b else b * 256 + a

/-- the first piece of UTF-16 bytes -/
def utf16Piece (big : Bool) : List Nat → Piece
  | a :: b :: rest =>
    let u := join2 big a b
    if u < 0xd800 || 0xdfff < u then .char (Char.ofNat u) 2
    else match rest with
      | c :: d :: _ =>
        let v := join2 big c d
        if u < 0xdc00 && 0xdc00 ≤ v && v ≤ 0xdfff then
          .char (Char.ofNat (0x10000 + (u - 0xd800) * 0x400 + (v - 0xdc00))) 4
        else .flaw .loneSurrogate 2
      | rest => .flaw .endOfData (2 + rest.length)
  | bs => .flaw .truncated bs.length

/-- the first piece of UTF-32 bytes -/
def utf32Piece (big : Bool) : List Nat → Piece
  | a :: b :: c :: d :: _ =>
    let u := if big then join2 true a b * 0x10000 + join2 true c d
      else join2 false c d * 0x10000 + join2 false a b
    if 0x110000 ≤ u then .flaw .outOfRange 4
    else if 0xd800 ≤ u && u ≤ 0xdfff then .flaw .loneSurrogate 4
    else .char (Char.ofNat u) 4
  | bs => .flaw .truncated bs.length

/-- the first piece of bytes -/
def Encoding.piece : Encoding → Nat → List Nat → Piece
  | .utf8, b, bs => utf8Piece b bs
  | .utf16 big, b, bs => utf16Piece big (b :: bs)
  | .utf32 big, b, bs => utf32Piece big (b :: bs)

/-- what stands in a text for a flaw, or for a surrogate on its own, which is no character -/
def replacement : Char := Char.ofNat 0xfffd

/-- whether bytes start with a surrogate in the manner of UTF-8 -/
def startsWithSurrogate : List Nat → Bool
  | 0xed :: b :: c :: _ => 0xa0 ≤ b && b ≤ 0xbf && isTail c
  | _ => false

/-- the first piece of the bytes of a document, where a surrogate on its own passes as a
character -/
def Encoding.documentPiece (e : Encoding) (b : Nat) (bs : List Nat) : Piece :=
  match e, e.piece b bs with
  | .utf8, .flaw f n => if startsWithSurrogate (b :: bs) then .char replacement 3 else .flaw f n
  | .utf16 _, .flaw .loneSurrogate _ => .char replacement 2
  | .utf16 _, .flaw .endOfData _ => .char replacement 2
  | .utf32 _, .flaw .loneSurrogate _ => .char replacement 4
  | _, p => p

/-- the pieces of the bytes that follow `skip` bytes of an earlier piece, `first` giving the first
piece of the bytes it is given -/
def piecesFrom (first : Nat → List Nat → Piece) : Nat → List Nat → List Piece
  | _, [] => []
  | skip + 1, _ :: bs => piecesFrom first skip bs
  | 0, b :: bs => first b bs :: piecesFrom first ((first b bs).used - 1) bs

/-- the pieces of the bytes -/
def pieces (e : Encoding) (bs : List Nat) : List Piece := piecesFrom e.piece 0 bs

/-- the pieces of the bytes of a document -/
def documentPieces (e : Encoding) (bs : List Nat) : List Piece := piecesFrom e.documentPiece 0 bs

/-- a flaw of a document: the bytes from `start` on, `length` of them, the first of which is
`byte` -/
structure DecodeFault where
  encoding : Encoding
  flaw : Flaw
  start : Nat
  length : Nat
  byte : Nat
  deriving DecidableEq, Repr

/-- the text of some pieces that start at an offset, or the first flaw among them -/
def collect (e : Encoding) (bs : List Nat) : Nat → List Piece → Except DecodeFault (List Char)
  | _, [] => .ok []
  | at_, .char c n :: ps => (collect e bs (at_ + n) ps).map (c :: ·)
  | at_, .flaw f n :: _ => .error ⟨e, f, at_, n, (bs.drop at_).headD 0⟩

/-- the text of the bytes, or their first flaw -/
def decode (e : Encoding) (bs : List Nat) : Except DecodeFault (List Char) :=
  collect e bs 0 (pieces e bs)

/-- the text of UTF-8 bytes, with the replacement character for every flaw -/
def lenient (bs : List Nat) : String :=
  String.ofList <| (pieces .utf8 bs).map fun
    | .char c _ => c
    | .flaw _ _ => replacement

/-- the encoding that the first bytes of a document show, and the length of its mark -/
def Encoding.detect : List Nat → Encoding × Nat
  | 0 :: 0 :: 0xfe :: 0xff :: _ => (.utf32 true, 4)
  | 0xff :: 0xfe :: 0 :: 0 :: _ => (.utf32 false, 4)
  | 0xfe :: 0xff :: _ => (.utf16 true, 2)
  | 0xff :: 0xfe :: _ => (.utf16 false, 2)
  | 0xef :: 0xbb :: 0xbf :: _ => (.utf8, 3)
  | a :: b :: c :: d :: _ =>
    if a = 0 then (if b = 0 then .utf32 true else .utf16 true, 0)
    else if b = 0 then (if c = 0 && d = 0 then .utf32 false else .utf16 false, 0)
    else (.utf8, 0)
  | [a, b] =>
    if a = 0 then (.utf16 true, 0) else if b = 0 then (.utf16 false, 0) else (.utf8, 0)
  | _ => (.utf8, 0)

/-- the text of a document in the encoding that it shows; a byte order mark is not part of it -/
def decodeDocument (bs : List Nat) : Except DecodeFault (List Char) :=
  match Encoding.detect bs with
  | (.utf8, mark) =>
    let bs := bs.drop mark
    collect .utf8 bs 0 (documentPieces .utf8 bs)
  | (e, mark) => collect e bs mark (documentPieces e (bs.drop mark))

/-- the message for a flaw: one byte is named, several are given by their range -/
def DecodeFault.message (f : DecodeFault) : String :=
  let place :=
    if f.length = 1 then
      "byte 0x" ++ String.ofList (hexFixed 2 f.byte) ++ " in position " ++ toString f.start
    else "bytes in position " ++ toString f.start ++ "-" ++ toString (f.start + f.length - 1)
  "'" ++ f.encoding.name ++ "' codec can't decode " ++ place ++ ": " ++ f.flaw.message

end SampleTypes.Text
