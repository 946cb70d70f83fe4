import SampleTypes.Json.Reader
import SampleTypes.Library

/-!
# Configuration files

* `configNames`           the names a configuration file can have, in order of precedence;
* `findConfig`            the configuration file of a directory;
* `ConfigFile.Stop`       why no configuration can be loaded from a file;
* `Library.readData`      the data of a file;
* `Library.outcome`       the configuration of a file's data under an environment;
* `Library.loadConfig`    the configuration of a file, under the environment together with the
                          variables of the environment file beside it or in the working directory;
* `loadConfig`            the same by the means of this project.
-/

namespace SampleTypes

/-- the names a configuration file can have, in order of precedence -/
def configNames : List String :=
  ["algolia-codegen.json", "algolia-codegen.yaml", "algolia-codegen.yml"]

/-- the configuration file of a directory -/
def findConfig (d : Disk) (dir : Pathname) : Except Failure (Option Pathname) :=
  d.firstFile? (configNames.map dir.child)

namespace ConfigFile

/-- what to do about a file that is not there -/
def advice : String :=
  "Please create a config file or specify a different path using --config option."

/-- why no configuration can be loaded -/
inductive Fault where
  | noneIn (dir : Pathname)
  | notThere (path : Pathname)
  | notJson (path : Pathname) (f : Json.Fault)
  | notYaml (path : Pathname)
  | unreadable (path : Pathname) (f : Failure)
  | rejected (f : ConfigFault)
  deriving DecidableEq, Repr

def unparsed (path : Pathname) : String := "Failed to parse config file: " ++ path.text

def Fault.message : Fault → String
  | .noneIn dir =>
    "Config file not found in " ++ dir.text ++ "\nLooked for: " ++
      TypeExpr.joinTexts ", " configNames ++ "\n" ++ advice
  | .notThere path => "Config file not found: " ++ path.text ++ "\n" ++ advice
  | .notJson path f => unparsed path ++ "\nError: " ++ f.message
  | .notYaml path => unparsed path
  | .unreadable path f => "Failed to read config file: " ++ path.text ++ "\nError: " ++ f.message
  | .rejected f => f.message

/-- why loading stops: a fault of the configuration, or something that is none -/
inductive Stop where
  | fault (f : Fault)
  | refused (f : Failure)
  | notText (f : Text.DecodeFault)
  /-- a value in the file does not exist -/
  | noValue (f : Yaml.ValueFault)
  /-- an integer has too many digits -/
  | hugeInteger
  | refusedVariable
  deriving DecidableEq, Repr

def Stop.ofEnv : EnvFault → Stop
  | .unreadable (.refused f) => .refused f
  | .unreadable (.notText f) => .notText f
  | .refusedVariable => .refusedVariable

/-- whether a file is read as YAML -/
def isYaml (p : Pathname) : Bool :=
  let suffix := Text.lower p.suffix
  suffix == ".yaml" || suffix == ".yml"

def loadingEntry (p : Pathname) : Entry :=
  { level := .debug, text := "Loading config from " ++ p.text }

/-- the pathname to load from: a given one, or the configuration file of the working directory -/
def choose (d : Disk) : Option Pathname → Except Stop Pathname
  | some p => .ok p
  | none =>
    let here := d.here.pathname
    match findConfig d here with
    | .error f => .error (.refused f)
    | .ok none => .error (.fault (.noneIn here))
    | .ok (some p) => .ok p

/-- the file to load from, by its pathname from the root -/
def locate (d : Disk) (path : Option Pathname) : Except Stop Pathname := do
  let given ← choose d path
  match d.resolve given with
  | .error r => throw (.refused ⟨r, given⟩)
  | .ok p => match d.isFile p with
    | .error r => throw (.refused ⟨r, p⟩)
    | .ok false => throw (.fault (.notThere p))
    | .ok true => return p

/-- the data of a JSON text -/
def jsonData (p : Pathname) (cs : List Char) : Except Stop Data :=
  match Json.readChars cs with
  | .ok v => .ok (.ofJson v)
  | .error f => .error (if f.isHuge then .hugeInteger else .fault (.notJson p f))

def Stop.ofYaml (p : Pathname) : Yaml.Fault → Stop
  | .malformed => .fault (.notYaml p)
  | .notText f => .notText f
  | .noValue f => .noValue f

end ConfigFile

/-- an attempt to load a configuration, with its log -/
structure ConfigLoaded where
  result : Except ConfigFile.Stop Config
  log : Log := []

namespace Library

open ConfigFile

variable {ε : Type} (lib : Library ε)

/-- the data of what can be read of a file -/
def dataOf (p : Pathname) (r : Readable) : Except ε (Except Stop Data) :=
  if isYaml p then (lib.yaml r).map fun v => v.mapError (.ofYaml p)
  else match r.whole with
    | .error f => .ok (.error (.notText f))
    | .ok cs => match lib.deepText p r with
      | some e => .error e
      | none => .ok (jsonData p cs)

/-- the data of a file -/
def readData (d : Disk) (p : Pathname) : Except ε (Except Stop Data) :=
  match d.readable p with
  | .error f => .ok (.error (.fault (.unreadable p f)))
  | .ok r => lib.dataOf p r

/-- the configuration that the data of a file gives under an environment -/
def outcome (p : Pathname) (env : Environment) (v : Data) : Except ε (Except Stop Config) :=
  match lib.deepData v with
  | some e => .error e
  | none =>
    .ok ((Config.parseWith lib.validate p.text env v).mapError fun f => .fault (.rejected f))

/-- the configuration of a file under an environment -/
def parseFile (d : Disk) (env : Environment) (p : Pathname) : Except ε (Except Stop Config) := do
  match ← lib.readData d p with
  | .error s => return .error s
  | .ok v => lib.outcome p env v

/-- the configuration of a file; the environment file is read first -/
def loadConfig (d : Disk) (env : Environment) (path : Option Pathname) :
    Except ε ConfigLoaded :=
  match locate d path with
  | .error s => .ok ⟨.error s, []⟩
  | .ok p => do
    let loaded ← loadEnvironmentBy lib.dotenv d env (some p.parent)
    let log := loadingEntry p :: loaded.log
    match loaded.result with
    | .error f => return ⟨.error (.ofEnv f), log⟩
    | .ok _ => return ⟨← lib.parseFile d loaded.env p, log⟩

end Library

/-- the configuration of a file, by the means of this project -/
def loadConfig (d : Disk) (env : Environment) (path : Option Pathname) : ConfigLoaded :=
  match Library.own.loadConfig d env path with
  | .ok loaded => loaded

end SampleTypes
