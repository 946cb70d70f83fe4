import SampleTypes.Command.Arguments
import SampleTypes.Command.Help
import SampleTypes.Config.File
import SampleTypes.Run.Basic
import SampleTypes.Sample.File
import SampleTypes.Text.Terminal

/-!
# Commands and their outcomes

* `Form`         how a command is called: its name, its options, its help;
* `UsageFault`   why a command cannot be run with the arguments it is given;
* `Crash`        what ends a command that has no message for it;
* `Stop`         how a command ends early, with its exit code and its last words;
* `Showing`      a log entry, or a text for one of the two channels;
* `Outcome σ`    what a command shows, how it ends, and what it leaves behind.
-/

namespace SampleTypes.Command

/-- how a command is called -/
structure Form where
  /-- the name of the program and of the command -/
  name : String
  /-- the arguments, as the help describes them -/
  pattern : String
  help : List String
  options : List OptionSpec
  deriving DecidableEq, Repr

namespace Form

def helpText (f : Form) : String := Help.ofLines f.help

/-- the lines before a fault in the arguments -/
def usage (f : Form) : String :=
  Help.ofLines ["Usage: " ++ f.name ++ " " ++ f.pattern,
    "Try \x27" ++ f.name ++ " --help\x27 for help.", ""]

end Form

/-- why a value cannot be used -/
inductive ValueFault where
  | notInteger (text : String)
  | tooSmall (n : Int)
  | notThere (path : String)
  | isDirectory (path : String)
  deriving DecidableEq, Repr

def ValueFault.message : ValueFault → String
  | .notInteger t => Text.quoted t ++ " is not a valid integer range."
  | .tooSmall n => toString n ++ " is not in the range x>=1."
  | .notThere p => "File " ++ Text.quoted p ++ " does not exist."
  | .isDirectory p => "File " ++ Text.quoted p ++ " is a directory."

/-- why a command cannot be run with the arguments it is given -/
inductive UsageFault where
  | arguments (f : ArgumentFault)
  | invalid (title : String) (f : ValueFault)
  | noPath
  | unexpected (others : List String)
  | noCommand
  | noSuchCommand (name : String) (close : List String)
  deriving DecidableEq, Repr

namespace UsageFault

/-- arguments that are left over -/
def unexpectedMessage (others : List String) : String :=
  let word := if others.length = 1 then "argument" else "arguments"
  "Got unexpected extra " ++ word ++ " (" ++ TypeExpr.joinTexts " " others ++ ")"

def message : UsageFault → String
  | .arguments f => f.message
  | .invalid title f => "Invalid value for " ++ title ++ ": " ++ f.message
  | .noPath => "Missing argument \x27PATH\x27."
  | .unexpected others => unexpectedMessage others
  | .noCommand => "Missing command."
  | .noSuchCommand name close =>
    "No such command " ++ Text.quoted name ++ "." ++ suggestion close

/-- whether the usage is shown before the message: a value that lacks, or that is too much, goes
without -/
def showsUsage : UsageFault → Bool
  | .arguments (.needsValue _) => false
  | .arguments (.takesNoValue _) => false
  | _ => true

end UsageFault

/-- what ends a command that has no message for it -/
inductive Crash where
  | unreadable (f : ReadFault)
  | refused (f : Failure)
  | config (s : ConfigFile.Stop)
  | run (s : Run.Stop)
  | hugeInteger
  deriving DecidableEq, Repr

/-- how a command ends early -/
inductive Stop where
  /-- a question is answered -/
  | answered (text : String)
  /-- there are no arguments at all -/
  | unasked (f : Form)
  | misused (form : Form) (f : UsageFault)
  | failed (message : String)
  | crashed (c : Crash)
  deriving DecidableEq, Repr

def Stop.exitCode : Stop → Nat
  | .answered _ => 0
  | .unasked _ => 2
  | .misused _ _ => 2
  | .failed _ => 1
  | .crashed _ => 1

/-- something that is shown -/
inductive Showing where
  | entry (e : Entry)
  | out (text : String)
  | err (text : String)
  deriving DecidableEq, Repr

namespace Showing

/-- the text for the channel of results -/
def outText : Showing → String
  | .out t => Text.withoutSequences t
  | _ => ""

/-- the text for the channel of messages; entries are shown when they press, or in detail, and as
they are -/
def errText (detailed : Bool) : Showing → String
  | .entry e => if detailed || e.level.isPressing then e.text ++ "\n" else ""
  | .err t => Text.withoutSequences t
  | .out _ => ""

end Showing

/-- an error message on the channel of messages -/
def errorLine (message : String) : String := "Error: " ++ message ++ "\n"

/-- the last words of a command that ends early -/
def Stop.lastWords : Stop → List Showing
  | .answered t => [.out t]
  | .unasked f => [.err f.helpText]
  | .misused form f =>
    let usage := if f.showsUsage then form.usage else ""
    [.err (usage ++ errorLine f.message)]
  | .failed m => [.err (errorLine m)]
  | .crashed _ => []

/-- what a command shows, how it ends, and what it leaves behind -/
structure Outcome (σ : Type) where
  shown : List Showing
  stop : Option Stop
  disk : Disk
  source : σ
  detailed : Bool := false

namespace Outcome

variable {σ : Type}

/-- everything that is shown, the last words included -/
def allShown (o : Outcome σ) : List Showing :=
  o.shown ++ (o.stop.map Stop.lastWords).getD []

def stdout (o : Outcome σ) : String := String.join (o.allShown.map Showing.outText)

def stderr (o : Outcome σ) : String :=
  String.join (o.allShown.map (Showing.errText o.detailed))

def exitCode (o : Outcome σ) : Nat := (o.stop.map Stop.exitCode).getD 0

/-- what the command crashed from, if it did -/
def crash? (o : Outcome σ) : Option Crash :=
  match o.stop with
  | some (.crashed c) => some c
  | _ => none

end Outcome

/-- what a command works on -/
structure Session (σ : Type) where
  disk : Disk
  env : Environment
  source : σ

/-- the outcome of a command that ends before it did anything -/
def Session.stopped {σ : Type} (s : Session σ) (stop : Stop) : Outcome σ :=
  { shown := [], stop := some stop, disk := s.disk, source := s.source }

end SampleTypes.Command
