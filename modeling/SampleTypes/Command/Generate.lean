import SampleTypes.Command.Form

/-!
# The command for the indexes of a configuration

Every output file of the configuration is made and reported on a line of its own; the command
fails if one of them does.

* `Generate.form`       its options;
* `Generate.reported`   the line for an output file;
* `Generate.run`        the command, given how requests are answered.
-/

namespace SampleTypes.Command.Generate

def config : OptionSpec := { long := "--config", kind := .value .file, short := some 'c' }
def dryRun : OptionSpec := { long := "--dry-run", kind := .switch }

def form : Form :=
  { name := Help.programName ++ " generate"
    pattern := "[OPTIONS]"
    help := Help.generate
    options := [config, dryRun, helpOption] }

/-- an output file with the number of samples it was made from -/
def madeFrom (r : TargetResult) : String :=
  r.path ++ " (" ++ toString r.sampleCount ++ " samples from " ++ r.indexName ++ ")\n"

/-- the line for an output file -/
def reported (dryRun : Bool) (r : TargetResult) : Showing :=
  match r.error with
  | some reason => .err ("✗ " ++ r.path ++ ": " ++ reason ++ "\n")
  | none =>
    if !r.written then
      .out ("⚠ " ++ r.path ++ ": file exists, skipped (overwrite is disabled)\n")
    else if dryRun then .out ("[DRY-RUN] Would write " ++ madeFrom r)
    else .out ("✓ " ++ madeFrom r)

/-- the end of a command with these results -/
def stopOfResults (rs : List TargetResult) : Option Stop :=
  match (rs.filter (!·.isOk)).length with
  | 0 => none
  | n + 1 =>
    some (.failed (toString (n + 1) ++ " of " ++ toString rs.length ++ " targets failed"))

/-- what ends the command when no configuration can be loaded -/
def stopOfConfig : ConfigFile.Stop → Stop
  | .fault f => .failed f.message
  | s => .crashed (.config s)

/-- the command with its configuration -/
def runConfig {σ : Type} (ask : Search.Request → σ → Search.Reply × σ) (s : Session σ)
    (dryRun : Bool) (c : Config) : Outcome σ :=
  let (result, left) :=
    Run.all (Source.ofSearch ask) dryRun c { disk := s.disk, source := s.source }
  let ended (shown : List Showing) (stop : Option Stop) : Outcome σ :=
    { shown := left.log.map .entry ++ shown, stop, disk := left.disk, source := left.source }
  match result with
  | .error stop => ended [] (some (.crashed (.run stop)))
  | .ok rs => ended (rs.map (reported dryRun)) (stopOfResults rs)

/-- the command -/
def run {σ : Type} (ask : Search.Request → σ → Search.Reply × σ) (s : Session σ)
    (args : List String) : Outcome σ :=
  match form.readNone s.disk args with
  | .error stop => s.stopped stop
  | .ok a =>
    let loaded := loadConfig s.disk s.env ((a.value? config).map .ofText)
    let outcome := match loaded.result with
      | .error stop => s.stopped (stopOfConfig stop)
      | .ok c => runConfig ask s (a.has dryRun) c
    { outcome with shown := loaded.log.map .entry ++ outcome.shown }

theorem stopOfResults_eq_none_iff (rs : List TargetResult) :
    stopOfResults rs = none ↔ ∀ r ∈ rs, r.isOk = true := by
  unfold stopOfResults
  split
  · next h =>
    rw [List.length_eq_zero_iff, List.filter_eq_nil_iff] at h
    simpa using h
  · next n h =>
    constructor
    · simp
    · intro all
      have : rs.filter (!·.isOk) = [] := by
        rw [List.filter_eq_nil_iff]
        intro r hr
        simp [all r hr]
      simp [this] at h

end SampleTypes.Command.Generate
