import SampleTypes.Command.Generate
import SampleTypes.Command.Schema

/-!
# The program

* `Program.form`      the options before the command;
* `Program.command`   the command that the first other argument names;
* `Program.run`       the program, given how requests are answered.
-/

namespace SampleTypes.Command.Program

/-- the switch for details -/
def verbose : OptionSpec := { long := "--verbose", kind := .switch, short := some 'v' }

def form : Form :=
  { name := Help.programName
    pattern := "[OPTIONS] COMMAND [ARGS]..."
    help := Help.program
    options := [versionOption, verbose, helpOption] }

inductive Name where
  | generate
  | schema
  deriving DecidableEq, Repr

def commands : List (String × Name) := [("generate", .generate), ("schema", .schema)]

/-- why a command is not known; a name that looks like an option is first read as one -/
def unknown (d : Disk) (name : String) (args : List String) : Stop :=
  let stop : Stop :=
    .misused form (.noSuchCommand name (Text.closeTo name (commands.map (·.1))))
  if name.toList.head? = some '-' then
    match form.readOptions false d (name :: args) with
    | .error earlier => earlier
    | .ok _ => stop
  else stop

/-- the command that the first argument names -/
def command (d : Disk) : List String → Except Stop (Name × List String)
  | [] => .error (.misused form .noCommand)
  | name :: args =>
    match commands.lookup name with
    | some c => .ok (c, args)
    | none => .error (unknown d name args)

/-- a command with its arguments -/
def runCommand {σ : Type} (ask : Search.Request → σ → Search.Reply × σ) (s : Session σ) :
    Name → List String → Outcome σ
  | .generate, args => Generate.run ask s args
  | .schema, args => Schema.run s args

/-- the options before the command, and the command with its arguments -/
def read (d : Disk) (args : List String) : Except Stop (Arguments × Name × List String) := do
  if args.isEmpty then throw (.unasked form)
  let a ← form.readOptions false d args
  return (a, ← command d a.others)

/-- the program -/
def run {σ : Type} (ask : Search.Request → σ → Search.Reply × σ) (s : Session σ)
    (args : List String) : Outcome σ :=
  match read s.disk args with
  | .error stop => s.stopped stop
  | .ok (a, name, args) => { runCommand ask s name args with detailed := a.has verbose }

end SampleTypes.Command.Program
