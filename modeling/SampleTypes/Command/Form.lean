import SampleTypes.Command.Basic
import SampleTypes.Text.Decimal

/-!
# Arguments under a form

Questions come first, then the values of the options in the order they are given, then the
pathname, and at last arguments that are too many.

* `Demand.check`          whether a value is what an option asks for;
* `Form.readOptions`      the arguments, with their options checked;
* `Form.readPath`         the arguments of a command for one file;
* `Form.readNone`         the arguments of a command without any.
-/

namespace SampleTypes.Command

/-- the switch for the help, which every command has -/
def helpOption : OptionSpec := { long := "--help", kind := .question }

/-- the switch for the version -/
def versionOption : OptionSpec := { long := "--version", kind := .question }

/-- what stands at a path as it is written; an empty path leads nowhere -/
def itemAt (d : Disk) (path : String) : Option Item :=
  match d.status (.verbatim path) with
  | .ok item => if path.isEmpty then none else item
  | .error _ => none

/-- a refusal of paths that no disk can be asked for -/
def askable (path : String) : Except Stop Unit :=
  let p := Pathname.verbatim path
  if p.hasNull then .error (.crashed (.refused ⟨.nullCharacter, p⟩)) else .ok ()

namespace Form

def invalid (f : Form) (title : String) (v : ValueFault) : Stop := .misused f (.invalid title v)

/-- whether a value writes an integer of at least one -/
def checkCount (f : Form) (title value : String) : Except Stop Unit :=
  match Text.integer? value with
  | none => .error (f.invalid title (.notInteger value))
  | some n => if n < 1 then .error (f.invalid title (.tooSmall n)) else .ok ()

/-- whether a path leads to no directory -/
def checkFile (f : Form) (d : Disk) (title path : String) : Except Stop Unit := do
  askable path
  if itemAt d path = some .directory then throw (f.invalid title (.isDirectory path))

/-- whether a path leads to a file that is there -/
def checkExisting (f : Form) (d : Disk) (title path : String) : Except Stop Unit := do
  askable path
  if (itemAt d path).isNone then throw (f.invalid title (.notThere path))
  f.checkFile d title path

/-- whether the value of an option is what the option asks for -/
def checkOption (f : Form) (d : Disk) (a : Arguments) (o : OptionSpec) : Except Stop Unit :=
  match o.kind, a.value? o with
  | .value .count, some v => f.checkCount o.title v
  | .value .file, some v => f.checkFile d o.title v
  | _, _ => .ok ()

/-- the answer to a question -/
def answer (f : Form) (o : OptionSpec) : String :=
  if o = versionOption then Help.programName ++ ", version " ++ Help.version ++ "\n"
  else f.helpText

/-- the arguments, with their options checked -/
def readOptions (f : Form) (mixed : Bool) (d : Disk) (args : List String) :
    Except Stop Arguments := do
  let a ← (readArguments f.options mixed args).mapError fun e => .misused f (.arguments e)
  match a.options.find? (·.isQuestion) with
  | some o => throw (.answered (f.answer o))
  | none =>
    a.options.forM (f.checkOption d a)
    return a

/-- the arguments of a command for one file: its path, and the options -/
def readPath (f : Form) (d : Disk) (args : List String) : Except Stop (String × Arguments) := do
  let a ← f.readOptions true d args
  match a.others with
  | [] => throw (.misused f .noPath)
  | path :: others =>
    f.checkExisting d "\x27PATH\x27" path
    if others.isEmpty then return (path, a) else throw (.misused f (.unexpected others))

/-- the arguments of a command that has only options -/
def readNone (f : Form) (d : Disk) (args : List String) : Except Stop Arguments := do
  let a ← f.readOptions true d args
  if a.others.isEmpty then return a else throw (.misused f (.unexpected a.others))

end Form

end SampleTypes.Command
