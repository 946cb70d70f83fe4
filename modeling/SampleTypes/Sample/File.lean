import SampleTypes.Disk.Read
import SampleTypes.Json.Reader
import SampleTypes.Library
import SampleTypes.Text.Blank
import SampleTypes.Text.Case

/-!
# Sample files

A sample file holds one JSON document: a list of records, a search response with a list of
`hits`, or a single record.  A file whose name ends in `.jsonl` holds a document on every line;
there blank lines and lines that cannot be read are passed over, and the lines up to the one that
completes the records asked for are all that is read.

* `recordsOf v`            the records of a document;
* `recordsOfLines limit`   the records of lines, until there are as many as asked for;
* `firstRecords limit`     the records up to a limit; a negative one counts from the end;
* `loadSamples`            the records of a file, of which there is at least one before the limit;
* `Library.loadSamples`    the same by means that are given.
-/

namespace SampleTypes

/-- the records of a list of values, or of a single one -/
def recordsAmong : Json → List Record
  | .obj fs => [fs]
  | .arr xs => xs.filterMap Json.record?
  | _ => []

/-- the records of a document -/
def recordsOf (v : Json) : List Record :=
  match v.record?.bind (·.lookup "hits") with
  | some (.arr hits) => recordsAmong (.arr hits)
  | _ => recordsAmong v

/-- whether some records are as many as asked for -/
def reaches (limit : Option Int) (rs : List Record) : Bool :=
  match limit with
  | some n => decide (n ≤ rs.length)
  | none => false

inductive LoadFault where
  | unreadable (f : ReadFault)
  | invalid (path : Pathname) (f : Json.Fault)
  /-- an integer has too many digits -/
  | hugeInteger
  | noRecords (path : Pathname)
  deriving DecidableEq, Repr

def LoadFault.message : LoadFault → String
  | .unreadable (.refused f) => f.message
  | .unreadable (.notText f) => f.message
  | .invalid p f => "Invalid JSON in " ++ p.text ++ ": " ++ f.message
  | .hugeInteger => "an integer has too many digits"
  | .noRecords p => "No sample records found in " ++ p.text

/-- the document on a line, unless the line is blank or cannot be read -/
def lineDocument (line : List Char) : Except LoadFault (Option Json) :=
  match Text.trimWith Text.isBlank line with
  | [] => .ok none
  | cs => match Json.readChars cs with
    | .ok v => .ok (some v)
    | .error f => if f.isHuge then .error .hugeInteger else .ok none

/-- what comes after the last line: the records so far, or the flaw that ends the text -/
def recordsAtEnd (flaw : Option Text.DecodeFault) (rs : List Record) :
    Except LoadFault (List Record) :=
  match flaw with
  | none => .ok rs
  | some f => .error (.unreadable (.notText f))

/-- the records of lines after the records `rs`, until there are as many as asked for -/
def recordsOfLines (limit : Option Int) (flaw : Option Text.DecodeFault) (rs : List Record) :
    List (List Char) → Except LoadFault (List Record)
  | [] => recordsAtEnd flaw rs
  | line :: lines =>
    match lineDocument line with
    | .error f => .error f
    | .ok none => recordsOfLines limit flaw rs lines
    | .ok (some v) =>
      let rs := rs ++ recordsOf v
      if reaches limit rs then .ok rs else recordsOfLines limit flaw rs lines

/-- the records up to a limit; a negative limit leaves out as many at the end -/
def firstRecords (limit : Option Int) (rs : List Record) : List Record :=
  match limit with
  | none => rs
  | some n => if n < 0 then rs.take (rs.length - n.natAbs) else rs.take n.toNat

/-- whether a file holds a document on every line -/
def isLineFile (p : Pathname) : Bool := Text.lower p.suffix == ".jsonl"

/-- the records of a text that is one document -/
def recordsOfDocument (p : Pathname) (cs : List Char) : Except LoadFault (List Record) :=
  match Json.readChars cs with
  | .ok v => .ok (recordsOf v)
  | .error f => .error (if f.isHuge then .hugeInteger else .invalid p f)

/-- all records of a file's text, as far as the limit lets them be read -/
def recordsOfText (p : Pathname) (limit : Option Int) (r : Readable) :
    Except LoadFault (List Record) :=
  if isLineFile p then recordsOfLines limit r.flaw [] r.lines
  else match r.whole with
    | .ok cs => recordsOfDocument p cs
    | .error f => .error (.unreadable (.notText f))

/-- the records of a file's text up to a limit -/
def samplesOfText (p : Pathname) (limit : Option Int) (r : Readable) :
    Except LoadFault (List Record) := do
  match ← recordsOfText p limit r with
  | [] => throw (.noRecords p)
  | rs => return firstRecords limit rs

/-- the records of a file up to a limit -/
def loadSamples (d : Disk) (p : Pathname) (limit : Option Int) :
    Except LoadFault (List Record) :=
  match d.readable p with
  | .error f => .error (.unreadable (.refused f))
  | .ok r => samplesOfText p limit r

/-- the records of a file up to a limit, unless it is nested too deeply -/
def Library.loadSamples {ε : Type} (lib : Library ε) (d : Disk) (p : Pathname)
    (limit : Option Int) : Except ε (Except LoadFault (List Record)) :=
  match (d.readable p).toOption.bind (lib.deepText p) with
  | some e => .error e
  | none => .ok (SampleTypes.loadSamples d p limit)

end SampleTypes
