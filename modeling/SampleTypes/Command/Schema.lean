import SampleTypes.Command.Form
import SampleTypes.Json.Printer
import SampleTypes.Sample.Merge

/-!
# The command for a sample file

Declarations are made from the records of a file, and printed or saved; or the merged record is
printed together with the sets of values.

* `Schema.form`      its options;
* `Schema.Order`     what is asked for;
* `Schema.report`    the merged record and the sets of values, as a value;
* `Schema.run`       the command.
-/

namespace SampleTypes.Command.Schema

def indexName : OptionSpec := { long := "--index-name", kind := .value .text, short := some 'i' }

/-- the text before every type name -/
def lead : OptionSpec := { long := "--prefix", kind := .value .text }

/-- the text after every type name -/
def trail : OptionSpec := { long := "--postfix", kind := .value .text }

def samples : OptionSpec := { long := "--samples", kind := .value .count, short := some 's' }
def enums : OptionSpec := { long := "--enums", kind := .switch }
def json : OptionSpec := { long := "--json", kind := .switch }
def output : OptionSpec := { long := "--output", kind := .value .file, short := some 'o' }
def overwrite : OptionSpec := { long := "--overwrite", kind := .switch }

def form : Form :=
  { name := Help.programName ++ " schema"
    pattern := "[OPTIONS] PATH"
    help := Help.schema
    options := [indexName, lead, trail, samples, enums, json, output, overwrite, helpOption] }

/-- what is asked for -/
structure Order where
  path : String
  indexName : Option String
  affixes : Affixes
  samples : Option Int
  enums : Bool
  json : Bool
  output : Option String
  overwrite : Bool

/-- a text unless it is empty -/
def nonEmpty (t : Option String) : Option String := t.filter (!·.isEmpty)

def Order.ofArguments (path : String) (a : Arguments) : Order :=
  { path
    indexName := nonEmpty (a.value? Schema.indexName)
    affixes := ⟨(a.value? lead).getD "", (a.value? trail).getD ""⟩
    samples := (a.value? Schema.samples).bind Text.integer?
    enums := a.has Schema.enums
    json := a.has Schema.json
    output := nonEmpty (a.value? Schema.output)
    overwrite := a.has Schema.overwrite }

def valueSetReport (v : ValueSet) : String × Json :=
  (v.dotted, .obj [("kind", .str v.kind.name), ("values", .arr v.values)])

/-- the merged record and the sets of values; of sets with one dotted path the last counts -/
def report (rs : List Record) : Json :=
  let merged := mergeSamples (rs.map .obj)
  .obj [("sample_count", .int rs.length), ("record", merged.record),
    ("value_sets", .obj (Fields.ofPairs (merged.valueSets.map valueSetReport)))]

/-- what the declarations are made for: without an index name, the file's name stands in -/
def Order.target (o : Order) : Declaration.Target :=
  ⟨o.indexName.getD (Pathname.ofText o.path).stem, o.affixes, o.enums⟩

/-- the line for a file that was written -/
def savedLine (path : String) (count : Nat) : String :=
  "✓ " ++ path ++ " (" ++ toString count ++ " samples)\n"

/-- the message for a file that may not be replaced -/
def existsMessage (path : String) : String :=
  "File exists: " ++ path ++ " (use --overwrite to replace it)"

/-- what ends the command when no records can be loaded -/
def stopOfLoad : LoadFault → Stop
  | .unreadable f => .crashed (.unreadable f)
  | .hugeInteger => .crashed .hugeInteger
  | f => .failed f.message

/-- declarations saved to a file -/
def saveTo {σ : Type} (s : Session σ) (o : Order) (path text : String) (count : Nat) :
    Outcome σ :=
  let saved := s.disk.save (.ofText path) text ⟨o.overwrite, false⟩
  let ended (shown : List Showing) (stop : Option Stop) : Outcome σ :=
    { shown := saved.log.map .entry ++ shown, stop, disk := saved.disk, source := s.source }
  match saved.result with
  | .ok true => ended [.out (savedLine path count)] none
  | .ok false => ended [] (some (.failed (existsMessage path)))
  | .error f => ended [] (some (.crashed (.refused f)))

/-- the command with its order and the records of the file -/
def runOn {σ : Type} (s : Session σ) (o : Order) (rs : List Record) : Outcome σ :=
  let ended (shown : List Showing) : Outcome σ :=
    { shown, stop := none, disk := s.disk, source := s.source }
  if o.json then ended [.out ((report rs).indented ++ "\n")]
  else
    let (text, log) := Declaration.generate (rs.map .obj) o.target
    let entries := log.map Showing.entry
    match o.output with
    | none => ended (entries ++ [.out text])
    | some path =>
      let saved := saveTo s o path text rs.length
      { saved with shown := entries ++ saved.shown }

/-- the command with its order -/
def runOrder {σ : Type} (s : Session σ) (o : Order) : Outcome σ :=
  match loadSamples s.disk (.ofText o.path) o.samples with
  | .error f => s.stopped (stopOfLoad f)
  | .ok rs => runOn s o rs

/-- the command -/
def run {σ : Type} (s : Session σ) (args : List String) : Outcome σ :=
  match form.readPath s.disk args with
  | .error stop => s.stopped stop
  | .ok (path, a) => runOrder s (.ofArguments path a)

end SampleTypes.Command.Schema
