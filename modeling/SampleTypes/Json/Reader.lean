import SampleTypes.Json.Value
import SampleTypes.Text.Decimal
import SampleTypes.Text.Decode
import SampleTypes.Text.Hex

/-!
# Reading JSON texts

A reader takes the characters that are left and gives a value with the characters after it, or
stops with a problem at the characters where it stands.  The place of a problem in the whole
text follows from the number of characters left.

* `parts`, `joinParts` strings: escapes first, then pairs of surrogates;
* `number`             a number without a point or an exponent is an integer;
* `value`              any value, bounded by a number of steps that the text's length gives;
* `read s`             the value of a whole text, or a `Fault` with its place;
* `readBytes bs`       the value of a text in any encoding of Unicode.
-/

namespace SampleTypes.Json

inductive Problem where
  | expectingValue
  | expectingName
  | expectingColon
  | expectingComma
  | unterminatedString
  | controlCharacter
  | badEscape
  | badCodeEscape
  | extraData
  | byteOrderMark
  /-- an integer of so many digits, which are too many -/
  | hugeInteger (digits : Nat)
  deriving DecidableEq, Repr

/-- the message for an integer of too many digits -/
def hugeMessage (digits : Nat) : String :=
  "Exceeds the limit (" ++ toString Text.digitCeiling ++
    " digits) for integer string conversion: value has " ++ toString digits ++
    " digits; use sys.set_int_max_str_digits() to increase the limit"

def Problem.message : Problem → String
  | .expectingValue => "Expecting value"
  | .expectingName => "Expecting property name enclosed in double quotes"
  | .expectingColon => "Expecting ':' delimiter"
  | .expectingComma => "Expecting ',' delimiter"
  | .unterminatedString => "Unterminated string starting at"
  | .controlCharacter => "Invalid control character at"
  | .badEscape => "Invalid \\escape"
  | .badCodeEscape => "Invalid \\uXXXX escape"
  | .extraData => "Extra data"
  | .byteOrderMark => "Unexpected UTF-8 BOM (decode using utf-8-sig)"
  | .hugeInteger digits => hugeMessage digits

/-- a problem and the characters left where it was found -/
structure Stop where
  problem : Problem
  rest : List Char

/-- a problem and its place: line and column from one, offset from zero -/
structure Fault where
  problem : Problem
  line : Nat
  column : Nat
  offset : Nat
  deriving DecidableEq, Repr

/-- whether an integer of too many digits was met, which is no fault of the text's form -/
def Fault.isHuge (f : Fault) : Bool :=
  match f.problem with
  | .hugeInteger _ => true
  | _ => false

/-- the message for a fault, with its place unless an integer is too long -/
def Fault.message (f : Fault) : String :=
  if f.isHuge then f.problem.message
  else f.problem.message ++ ": line " ++ toString f.line ++ " column " ++ toString f.column ++
    " (char " ++ toString f.offset ++ ")"

/-- the place of a stop in the text it was read from -/
def Stop.fault (text : List Char) (s : Stop) : Fault :=
  let offset := text.length - s.rest.length
  let (line, column) := Text.position text offset
  ⟨s.problem, line, column, offset⟩

/-- white space between tokens -/
def isSpace (c : Char) : Bool := c == ' ' || c == '\t' || c == '\n' || c == '\r'

def skipSpace (cs : List Char) : List Char := cs.dropWhile isSpace

/-! ## strings -/

/-- a part of a string: a character, or the number of a code escape -/
inductive Part where
  | char (c : Char)
  | code (n : Nat)

/-- the character of a short escape -/
def shortEscape? (c : Char) : Option Char :=
  if c = '\x22' ∨ c = '\\' ∨ c = '/' then some c
  else if c = 'b' then some '\x08'
  else if c = 'f' then some '\x0c'
  else if c = 'n' then some '\n'
  else if c = 'r' then some '\r'
  else if c = 't' then some '\t'
  else none

/-- the parts of a string up to its closing quote; `opening` is where the string started -/
def parts (opening : List Char) : List Char → Except Stop (List Part × List Char)
  | [] => .error ⟨.unterminatedString, opening⟩
  | ['\\'] => .error ⟨.unterminatedString, opening⟩
  | '\\' :: 'u' :: a :: b :: c :: d :: e :: cs =>
    match Text.hexNumber? [a, b, c, d] with
    | some n => (parts opening (e :: cs)).map fun (ps, rest) => (.code n :: ps, rest)
    | none => .error ⟨.badCodeEscape, 'u' :: a :: b :: c :: d :: e :: cs⟩
  | '\\' :: 'u' :: cs => .error ⟨.badCodeEscape, 'u' :: cs⟩
  | '\\' :: c :: cs =>
    match shortEscape? c with
    | some e => (parts opening cs).map fun (ps, rest) => (.char e :: ps, rest)
    | none => .error ⟨.badEscape, '\\' :: c :: cs⟩
  | c :: cs =>
    if c = '\x22' then .ok ([], cs)
    else if c.toNat < 0x20 then .error ⟨.controlCharacter, c :: cs⟩
    else (parts opening cs).map fun (ps, rest) => (.char c :: ps, rest)

def isHighSurrogate (n : Nat) : Bool := 0xd800 ≤ n && n ≤ 0xdbff
def isLowSurrogate (n : Nat) : Bool := 0xdc00 ≤ n && n ≤ 0xdfff

/-- A code by itself.  A surrogate alone is no character, and is read as the one that stands for
what cannot be read; a reader of replies that tells such texts apart is another `Search.Client`. -/
def codeChar (n : Nat) : Char :=
  if isHighSurrogate n || isLowSurrogate n then Char.ofNat 0xfffd else Char.ofNat n

/-- the characters of the parts: a high and a low surrogate side by side are one character -/
def joinParts : List Part → List Char
  | [] => []
  | .code a :: .code b :: ps =>
    if isHighSurrogate a && isLowSurrogate b then
      Char.ofNat (0x10000 + (a - 0xd800) * 0x400 + (b - 0xdc00)) :: joinParts ps
    else codeChar a :: joinParts (.code b :: ps)
  | .code a :: ps => codeChar a :: joinParts ps
  | .char c :: ps => c :: joinParts ps

/-- a string after its opening quote -/
def string (opening cs : List Char) : Except Stop (String × List Char) :=
  (parts opening cs).map fun (ps, rest) => (String.ofList (joinParts ps), rest)

/-! ## numbers and words -/

/-- the digits at the start, and the rest -/
def spanDigits (cs : List Char) : List Char × List Char :=
  (cs.takeWhile Text.isAsciiDigit, cs.dropWhile Text.isAsciiDigit)

/-- the digits of a fraction and the rest; a point without a digit after it is no fraction -/
def fraction : List Char → Option (List Char × List Char)
  | '.' :: cs =>
    match spanDigits cs with
    | ([], _) => none
    | (ds, rest) => some (ds, rest)
  | _ => none

/-- an exponent and the rest; a mark without a digit after it is no exponent -/
def exponent : List Char → Option (Int × List Char)
  | [] => none
  | c :: cs =>
    if c = 'e' ∨ c = 'E' then
      let (negative, cs) := Text.signOf cs
      match spanDigits cs with
      | ([], _) => none
      | (ds, rest) => some (Text.signed negative (Text.natOfDigits ds), rest)
    else none

/-- the digits before the point: a zero alone, or digits that start with another one -/
def wholePart : List Char → Option (List Char × List Char)
  | '0' :: cs => some (['0'], cs)
  | cs =>
    match spanDigits cs with
    | ([], _) => none
    | (ds, rest) => some (ds, rest)

/-- a number without its sign -/
def unsigned (negative : Bool) (cs : List Char) : Option (Json × List Char) := do
  let (whole, rest) ← wholePart cs
  match fraction rest, exponent rest with
  | some (ds, rest'), _ =>
    let digits := Text.natOfDigits (whole ++ ds)
    match exponent rest' with
    | some (e, rest) => some (.float (.ofDecimal negative digits (e - ds.length)), rest)
    | none => some (.float (.ofDecimal negative digits (-(ds.length : Int))), rest')
  | none, some (e, rest) => some (.float (.ofDecimal negative (Text.natOfDigits whole) e), rest)
  | none, none => some (.int (Text.signed negative (Text.natOfDigits whole)), rest)

/-- a number at the start of the characters -/
def number : List Char → Option (Json × List Char)
  | '-' :: cs => unsigned true cs
  | cs => unsigned false cs

/-- the words with a meaning -/
def words : List (List Char × Json) := [
  ("null".toList, .null), ("true".toList, .bool true), ("false".toList, .bool false),
  ("NaN".toList, .float .nan), ("Infinity".toList, .float (.infinite false)),
  ("-Infinity".toList, .float (.infinite true))]

/-- a word at the start of the characters -/
def word (cs : List Char) : Option (Json × List Char) :=
  words.findSome? fun (w, v) => if w.isPrefixOf cs then some (v, cs.drop w.length) else none

/-! ## values -/

/-- integers from here on away from zero have too many digits -/
def hugeBound : Nat := Double.tenTo Text.digitCeiling

/-- a value that was read from `cs` up to `rest`, unless it is an integer of too many digits -/
def bounded (cs : List Char) : Json × List Char → Except Stop (Json × List Char)
  | (.int n, rest) =>
    if hugeBound ≤ n.natAbs then .error ⟨.hugeInteger (Double.digitCount n.natAbs), cs⟩
    else .ok (.int n, rest)
  | r => .ok r

mutual

/-- a value at the start of the characters -/
def value : Nat → List Char → Except Stop (Json × List Char)
  | 0, cs => .error ⟨.expectingValue, cs⟩
  | steps + 1, cs =>
    match cs with
    | '\x22' :: rest => (string cs rest).map fun (s, rest) => (.str s, rest)
    | '[' :: rest =>
      match skipSpace rest with
      | ']' :: rest => .ok (.arr [], rest)
      | rest => (items steps rest).map fun (xs, rest) => (.arr xs, rest)
    | '\x7b' :: rest =>
      match skipSpace rest with
      | '\x7d' :: rest => .ok (.obj [], rest)
      | rest => (members steps rest).map fun (fs, rest) => (.obj (Fields.ofPairs fs), rest)
    | cs =>
      match word cs <|> number cs with
      | some r => bounded cs r
      | none => .error ⟨.expectingValue, cs⟩

/-- one or more items and the closing bracket -/
def items : Nat → List Char → Except Stop (List Json × List Char)
  | 0, cs => .error ⟨.expectingValue, cs⟩
  | steps + 1, cs => do
    let (x, rest) ← value steps cs
    match skipSpace rest with
    | ']' :: rest => return ([x], rest)
    | ',' :: rest =>
      let (xs, rest) ← items steps (skipSpace rest)
      return (x :: xs, rest)
    | rest => throw ⟨.expectingComma, rest⟩

/-- one or more fields and the closing brace -/
def members : Nat → List Char → Except Stop (List (String × Json) × List Char)
  | 0, cs => .error ⟨.expectingName, cs⟩
  | steps + 1, cs => do
    match cs with
    | '\x22' :: rest =>
      let (k, rest) ← string cs rest
      match skipSpace rest with
      | ':' :: rest =>
        let (v, rest) ← value steps (skipSpace rest)
        match skipSpace rest with
        | '\x7d' :: rest => return ([(k, v)], rest)
        | ',' :: rest =>
          let (fs, rest) ← members steps (skipSpace rest)
          return ((k, v) :: fs, rest)
        | rest => throw ⟨.expectingComma, rest⟩
      | rest => throw ⟨.expectingColon, rest⟩
    | cs => throw ⟨.expectingName, cs⟩

end

/-- the steps that any value of `n` characters can take -/
def stepsFor (n : Nat) : Nat := 2 * n + 2

/-- a value with nothing but white space around it -/
def document (cs : List Char) : Except Stop Json := do
  let (v, rest) ← value (stepsFor cs.length) (skipSpace cs)
  match skipSpace rest with
  | [] => return v
  | rest => throw ⟨.extraData, rest⟩

/-- a value as before, in a text that starts with no byte order mark -/
def unmarked (cs : List Char) : Except Stop Json :=
  if cs.head? = some (Char.ofNat 0xfeff) then .error ⟨.byteOrderMark, cs⟩ else document cs

/-- the value of a text -/
def readChars (cs : List Char) : Except Fault Json :=
  (unmarked cs).mapError (Stop.fault cs)

/-- why bytes hold no value: they are no text, or the text holds none -/
inductive BytesFault where
  | notText (f : Text.DecodeFault)
  | notJson (f : Fault)
  deriving DecidableEq, Repr

def BytesFault.message : BytesFault → String
  | .notText f => f.message
  | .notJson f => f.message

/-- the value of a text in the encoding that its bytes show -/
def readBytes (bs : List Nat) : Except BytesFault Json :=
  match Text.decodeDocument bs with
  | .error f => .error (.notText f)
  | .ok cs => (document cs).mapError fun s => .notJson (s.fault cs)

/-- the value of a text -/
def read (s : String) : Except Fault Json := readChars s.toList

theorem bounded_int {cs rest : List Char} {n : Int} (h : n.natAbs < hugeBound) :
    bounded cs (.int n, rest) = .ok (.int n, rest) := by
  simp [bounded, Nat.not_le.mpr h]

end SampleTypes.Json
