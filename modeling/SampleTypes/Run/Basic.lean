import SampleTypes.Declaration.Document
import SampleTypes.Disk.Write
import SampleTypes.Search.Fetch

/-!
# Runs

A run makes every output file of a configuration, one after the other.  An output file whose
samples cannot be had, or which cannot be written, is reported and the run goes on.

* `Sourced`, `Source σ`   samples for an output file, from a source with a state;
* `TargetResult`          what became of one output file;
* `Run.System ε`          samples that no declarations are made of, and texts without an encoding;
* `Run.target`            one output file;
* `Run.allOn`             all output files, in order;
* `Run.all`               the same, where neither samples nor texts are beyond the system.
-/

namespace SampleTypes

/-- samples, the reason why there are none, or the end of the run -/
inductive Sourced (ε : Type := Empty) where
  | samples (rs : List Record)
  | failed (reason : String)
  | broken (s : Search.Stop ε)

/-- samples for output files, with a log, from a source with a state -/
abbrev Source (σ : Type) (ε : Type := Empty) := Generator → σ → Sourced ε × Log × σ

/-- the source that asks the index of an output file -/
def Source.ofClient {σ ε : Type} (client : Search.Client ε)
    (ask : Search.Request → σ → Search.Reply × σ) : Source σ ε :=
  fun g s =>
    let (fetched, s) := client.fetch ask (.ofGenerator g) s
    match fetched.result with
    | .ok rs => (.samples rs, fetched.log, s)
    | .error (.fault f) => (.failed f.message, fetched.log, s)
    | .error stop => (.broken stop, fetched.log, s)

/-- the same by the means of this project -/
def Source.ofSearch {σ : Type} (ask : Search.Request → σ → Search.Reply × σ) : Source σ :=
  .ofClient .own ask

/-- what became of one output file -/
structure TargetResult where
  path : String
  indexName : String
  sampleCount : Nat := 0
  written : Bool := false
  error : Option String := none
  deriving DecidableEq, Repr

def TargetResult.isOk (r : TargetResult) : Bool := r.error.isNone

namespace Run

/-- why a run ends before its last output file -/
inductive Stop (ε : Type := Empty) where
  | search (s : Search.Stop ε)
  | nullInPath
  /-- samples or a text are beyond the system -/
  | escaped (e : ε)
  deriving DecidableEq, Repr

/-- What the making of an output file can end in besides the disk's failures.  Characters here all
have an encoding; a text that holds one without, a surrogate on its own, is one that the system
does not encode. -/
structure System (ε : Type) where
  /-- samples are nested too deeply to make declarations of -/
  deep : List Record → Option ε := fun _ => none
  /-- a text has no encoding -/
  unencodable : String → Option ε := fun _ => none

/-- what a run works on and leaves behind -/
structure State (σ : Type) where
  disk : Disk
  source : σ
  log : Log := []

def State.note {σ : Type} (s : State σ) (entries : Log) : State σ :=
  { s with log := s.log ++ entries }

def processingEntry (path : String) (g : Generator) : Entry :=
  { level := .info, text := "Processing " ++ path ++ " (index: " ++ g.indexName ++ ")" }

def notFetchedEntry (path reason : String) : Entry :=
  { level := .error, text := "Failed to fetch samples for " ++ path ++ ": " ++ reason }

/-- the message for an output file that cannot be written -/
def notWritten (path : String) (f : Failure) : String :=
  "Failed to write " ++ path ++ ": " ++ f.message

def notWrittenEntry (path : String) (f : Failure) : Entry :=
  { level := .error, text := notWritten path f }

/-- what the declarations of an output file are made for -/
def documentTarget (g : Generator) : Declaration.Target := ⟨g.indexName, g.affixes, g.enums⟩

/-- the text of an output file, with the log of its making -/
def textOf (g : Generator) (rs : List Record) : String × Log :=
  Declaration.generate (rs.map .obj) (documentTarget g)

section
variable {σ ε : Type} (sys : System ε)

/-- the part of a text that is written: nothing of one without an encoding -/
def System.encodable (text : String) : String :=
  if (sys.unencodable text).isSome then "" else text

/-- An output file made from its samples and saved.  That a text has no encoding shows when it is to
be written, or would be in a dry run; then its file is already there, and empty. -/
def saveTarget (policy : Disk.Policy) (path : String) (g : Generator) (rs : List Record)
    (s : State σ) : Except (Stop ε) TargetResult × State σ :=
  match sys.deep rs with
  | some e => (.error (.escaped e), s)
  | none =>
    let (text, log) := textOf g rs
    let saved := s.disk.save (.ofText path) (sys.encodable text) policy
    let s := { s with disk := saved.disk }.note log
    let result : TargetResult := ⟨path, g.indexName, rs.length, false, none⟩
    match saved.result, sys.unencodable text with
    | .ok true, some e => (.error (.escaped e), s)
    | .ok written, _ => (.ok { result with written }, s.note saved.log)
    | .error f, _ =>
      if f.refusal = .nullCharacter then (.error .nullInPath, s)
      else (.ok { result with error := some (notWritten path f) },
        s.note (saved.log ++ [notWrittenEntry path f]))

/-- one output file -/
def target (source : Source σ ε) (policy : Disk.Policy) (path : String) (g : Generator)
    (s : State σ) : Except (Stop ε) TargetResult × State σ :=
  let (sourced, log, left) := source g s.source
  let s := { s with source := left }.note (processingEntry path g :: log)
  match sourced with
  | .broken stop => (.error (.search stop), s)
  | .failed reason =>
    (.ok { path, indexName := g.indexName, error := some reason },
      s.note [notFetchedEntry path reason])
  | .samples rs => saveTarget sys policy path g rs s

/-- some output files, one after the other -/
def targets (source : Source σ ε) (policy : Disk.Policy) :
    Targets → State σ → Except (Stop ε) (List TargetResult) × State σ
  | [], s => (.ok [], s)
  | (path, g) :: ts, s =>
    match target sys source policy path g s with
    | (.error stop, s) => (.error stop, s)
    | (.ok r, s) =>
      let (rs, s) := targets source policy ts s
      (rs.map (r :: ·), s)

/-- all output files of a configuration -/
def allOn (source : Source σ ε) (dryRun : Bool) (c : Config) (s : State σ) :
    Except (Stop ε) (List TargetResult) × State σ :=
  targets sys source ⟨c.overwrite, dryRun⟩ c.targets s

end

/-- all output files of a configuration, with nothing beyond the system -/
def all {σ : Type} (source : Source σ) (dryRun : Bool) (c : Config) (s : State σ) :
    Except Stop (List TargetResult) × State σ :=
  allOn {} source dryRun c s

theorem targets_nil {σ ε : Type} (sys : System ε) (source : Source σ ε) (policy : Disk.Policy)
    (s : State σ) : targets sys source policy [] s = (.ok [], s) := rfl

end Run

end SampleTypes
