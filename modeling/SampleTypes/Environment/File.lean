import SampleTypes.Disk.Read
import SampleTypes.Environment.Basic
import SampleTypes.Environment.Statement
import SampleTypes.Text.Case

/-!
# Environment files

Which environment file is read, and what it adds to the environment.  How the bytes of a file are
read is given; `EnvFile.adoptBytes` is one way.

There a value can refer to variables as `${NAME}` or `${NAME:-default}`: to one of the
environment, else to one above it in the file.  Of several statements for one variable the last one
counts.

* `atoms cs`         a value as characters and references;
* `settings env ss`  the variables of some statements with their values;
* `EnvFile.names`    the names an environment file can have, in order of precedence;
* `envFile?`         the first environment file of a directory or of the working directory;
* `loadEnvironmentBy`  the environment with the variables of that file, read in a given way;
* `loadEnvironment`  the same, read as above.
-/

namespace SampleTypes

/-- a character of a value, or a reference to a variable -/
inductive Atom where
  | char (c : Char)
  | variable (name default : String)
  deriving DecidableEq, Repr

namespace EnvFile

/-- the reference after its dollar sign and brace, and the number of characters it takes -/
def referenceBody? (cs : List Char) : Option (Atom × Nat) :=
  let name := cs.takeWhile fun c => c != '\x7d' && c != ':'
  match cs.dropWhile fun c => c != '\x7d' && c != ':' with
  | '\x7d' :: _ => some (.variable (String.ofList name) "", name.length + 1)
  | ':' :: '-' :: rest =>
    let default := rest.takeWhile (· != '\x7d')
    if rest.contains '\x7d' then
      some (.variable (String.ofList name) (String.ofList default),
        name.length + default.length + 3)
    else none
  | _ => none

/-- the reference after a dollar sign, and the number of characters it takes -/
def reference? : List Char → Option (Atom × Nat)
  | '\x7b' :: cs => (referenceBody? cs).map fun (a, used) => (a, used + 1)
  | _ => none

/-- the atoms after `skip` characters of an earlier one -/
def atomsFrom : Nat → List Char → List Atom
  | _, [] => []
  | skip + 1, _ :: cs => atomsFrom skip cs
  | 0, c :: cs =>
    if c = '$' then
      match reference? cs with
      | some (a, used) => a :: atomsFrom used cs
      | none => .char c :: atomsFrom 0 cs
    else .char c :: atomsFrom 0 cs

/-- a value as characters and references -/
def atoms (s : String) : List Atom := atomsFrom 0 s.toList

/-- variables of a file; one without a value is named but not set -/
abbrev Settings := List (String × Option String)

/-- what an atom stands for: a variable named without a value stands for the empty text -/
def Atom.value (env : Environment) (known : Settings) : Atom → List Char
  | .char c => [c]
  | .variable name default =>
    match env.lookup name with
    | some v => v.toList
    | none => match known.lookup name with
      | some v => (v.getD "").toList
      | none => default.toList

/-- a value with its references replaced -/
def interpolate (env : Environment) (known : Settings) (s : String) : String :=
  String.ofList ((atoms s).flatMap (Atom.value env known))

/-- the variables known after a statement -/
def settle (env : Environment) (known : Settings) : Statement → Settings
  | .variable name value => Fields.put name (value.map (interpolate env known)) known
  | _ => known

/-- the variables of some statements -/
def settings (env : Environment) (ss : List Statement) : Settings :=
  ss.foldl (settle env) []

/-- the variables with a value that are not set yet -/
def additions (env : Environment) (s : Settings) : List (String × String) :=
  s.filterMap fun (name, value) =>
    if Fields.has name env then none else value.map fun v => (name, v)

/-- whether the system refuses a variable: no name holds an equals sign, and neither names nor
values hold a null character -/
def isRefused (v : String × String) : Bool :=
  v.1.toList.contains '=' || v.1.toList.contains '\x00' || v.2.toList.contains '\x00'

/-- the names an environment file can have, in order of precedence -/
def names : List String := [".env", ".env.local", ".env.development.local"]

/-- the variable that switches environment files off, and its values that do -/
def switchName : String := "PYTHON_DOTENV_DISABLED"

def switchValues : List String := ["1", "true", "t", "yes", "y"]

/-- a word without regard to its letter case, where the long s is an s -/
def switchWord (v : String) : String := (Text.lower v).map fun c => if c = 'ſ' then 's' else c

def isDisabled (env : Environment) : Bool :=
  match env.lookup switchName with
  | some v => switchValues.contains (switchWord v)
  | none => false

def loadedEntry (p : Pathname) : Entry :=
  { level := .debug, text := "Loaded environment variables from " ++ p.text }

end EnvFile

/-- why an environment file cannot be loaded -/
inductive EnvFault where
  | unreadable (f : ReadFault)
  | refusedVariable
  deriving DecidableEq, Repr

/-- the first of some pathnames that leads to a file -/
def Disk.firstFile? (d : Disk) : List Pathname → Except Failure (Option Pathname)
  | [] => .ok none
  | p :: ps =>
    match d.isFile p with
    | .error r => .error ⟨r, p⟩
    | .ok true => .ok (some p)
    | .ok false => firstFile? d ps

/-- the directories to look for an environment file in: a given one, unless it is the working
directory, and then the working directory -/
def envDirectories (d : Disk) (dir : Option Pathname) : Except Failure (List Pathname) :=
  let here := d.here.pathname
  match dir with
  | none => .ok [here]
  | some p =>
    match d.resolve p with
    | .error r => .error ⟨r, p⟩
    | .ok q => .ok (if q = here then [here] else [p, here])

/-- the first environment file -/
def envFile? (d : Disk) (dir : Option Pathname) : Except Failure (Option Pathname) := do
  let dirs ← envDirectories d dir
  d.firstFile? (dirs.flatMap fun p => EnvFile.names.map p.child)

/-- an attempt to load an environment file: the one that was loaded, the environment, the log -/
structure EnvLoaded where
  result : Except EnvFault (Option Pathname)
  env : Environment
  log : Log := []

/-- the environment with the variables of a file's text -/
def EnvFile.adoptText (env : Environment) (cs : List Char) : Except EnvFault Environment :=
  let vars := additions env (settings env (statements cs))
  if vars.any isRefused then .error .refusedVariable else .ok (env.adopt vars)

/-- the environment with the variables of a file's bytes, unless environment files are switched
off -/
def EnvFile.adoptBytes (env : Environment) (bytes : List Nat) : Except EnvFault Environment :=
  if isDisabled env then .ok env
  else match Text.ofFile bytes with
    | .error f => .error (.unreadable (.notText f))
    | .ok cs => adoptText env cs

/-- a way to add the variables of a file's bytes to an environment; it may end the program -/
abbrev EnvReader (ε : Type) := Environment → List Nat → Except ε (Except EnvFault Environment)

section
variable {ε : Type} (adopt : EnvReader ε)

/-- the environment with the variables of a file -/
def EnvFile.adoptFile (d : Disk) (env : Environment) (p : Pathname) :
    Except ε (Except EnvFault Environment) :=
  match d.bytes p with
  | .error r => .ok (.error (.unreadable (.refused ⟨r, p⟩)))
  | .ok bytes => adopt env bytes

/-- the environment that an environment file leaves behind -/
def EnvLoaded.ofFile (env : Environment) (p : Pathname) : Except EnvFault Environment → EnvLoaded
  | .error f => ⟨.error f, env, []⟩
  | .ok env => ⟨.ok (some p), env, [EnvFile.loadedEntry p]⟩

/-- the environment with the variables of the first environment file -/
def loadEnvironmentBy (d : Disk) (env : Environment) (dir : Option Pathname) :
    Except ε EnvLoaded :=
  match envFile? d dir with
  | .error f => .ok ⟨.error (.unreadable (.refused f)), env, []⟩
  | .ok none => .ok ⟨.ok none, env, []⟩
  | .ok (some p) => (EnvFile.adoptFile adopt d env p).map (EnvLoaded.ofFile env p)

end

/-- the reader above, which does not end the program -/
def EnvFile.reader : EnvReader Empty := fun env bytes => .ok (adoptBytes env bytes)

/-- the environment with the variables of the first environment file, read as above -/
def loadEnvironment (d : Disk) (env : Environment) (dir : Option Pathname) : EnvLoaded :=
  match loadEnvironmentBy EnvFile.reader d env dir with
  | .ok loaded => loaded

end SampleTypes
