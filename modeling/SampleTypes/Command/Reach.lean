import SampleTypes.Command.Program

/-!
# What a program can look at

A program looks at the files its arguments name, at the configuration files and the environment
files of some directories, and at the output files of its configuration.

* `namedBy args`         the paths that arguments can stand for;
* `readable args`        the pathnames a program reads from;
* `outputs d env args`   the pathnames of the output files, known once those are there.
-/

namespace SampleTypes.Command.Reach

/-- the paths that an argument can stand for: itself, or what an option gives with it -/
def namedByOne (arg : String) : List String :=
  let behind := match cutAtEquals arg.toList with
    | none => []
    | some (_, value) => [String.ofList value]
  arg :: String.ofList (arg.toList.drop 2) :: behind

def namedBy (args : List String) : List String := args.flatMap namedByOne

/-- a configuration file with the environment files beside it -/
def withEnvironment (p : Pathname) : List Pathname := p :: EnvFile.names.map p.parent.child

/-- the working directory -/
def hereName : Pathname := ⟨0, []⟩

/-- the pathnames a program reads from -/
def readable (args : List String) : List Pathname :=
  ((namedBy args).map Pathname.ofText ++ configNames.map hereName.child).flatMap withEnvironment

/-- the configuration that a program uses -/
def config? (d : Disk) (env : Environment) (args : List String) : Option Config :=
  match Program.read d args with
  | .ok (_, .generate, args) =>
    match Generate.form.readNone d args with
    | .ok a => (loadConfig d env ((a.value? Generate.config).map .ofText)).result.toOption
    | .error _ => none
  | _ => none

/-- the pathnames of the output files -/
def outputs (d : Disk) (env : Environment) (args : List String) : List Pathname :=
  match config? d env args with
  | none => []
  | some c => c.targets.map fun t => .ofText t.1

end SampleTypes.Command.Reach
