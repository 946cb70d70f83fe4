import SampleTypes.Shape.Name

/-!
# Configuration

* `Host`, `Timeout`   where and how patiently requests are sent;
* `Generator`         the settings of one output file;
* `Generates`         the output files, in one group or in several;
* `Config`            the output files and whether existing ones are replaced.
-/

namespace SampleTypes

inductive Access where
  | read
  | write
  | readWrite
  deriving DecidableEq, Repr

/-- whether a host of the access takes searches -/
def Access.reads : Access → Bool
  | .write => false
  | _ => true

def Access.names : List (String × Access) :=
  [("read", .read), ("write", .write), ("readWrite", .readWrite)]

inductive Protocol where
  | https
  | http
  deriving DecidableEq, Repr

def Protocol.name : Protocol → String
  | .https => "https"
  | .http => "http"

def Protocol.names : List (String × Protocol) := [("https", .https), ("http", .http)]

structure Host where
  url : String
  access : Access := .readWrite
  protocol : Protocol := .https
  port : Option Nat := none
  deriving DecidableEq, Repr

/-- the address of a host; the port is written if one is set, and a zero counts as none -/
def Host.address (h : Host) : String :=
  let port := match h.port with
    | some n => if n = 0 then "" else ":" ++ toString n
    | none => ""
  h.protocol.name ++ "://" ++ h.url ++ port

/-- times in milliseconds -/
structure Timeout where
  connect : Nat := 10000
  request : Nat := 30000
  deriving DecidableEq, Repr

/-- the records asked for where a generator does not say -/
def defaultSampleSize : Nat := 20

/-- the settings of one output file -/
structure Generator where
  appId : String
  searchKey : String
  indexName : String
  affixes : Affixes := {}
  hosts : Option (List Host) := none
  timeout : Option Timeout := none
  sampleSize : Nat := defaultSampleSize
  enums : Bool := false

/-- output files with their settings -/
abbrev Targets := List (String × Generator)

/-- the output files in one group or in several -/
inductive Generates where
  | one (targets : Targets)
  | several (groups : List Targets)

/-- the groups one after the other -/
def Generates.targets : Generates → Targets
  | .one ts => ts
  | .several groups => groups.flatten

structure Config where
  overwrite : Bool
  generates : Generates

/-- every output file with its settings, in order -/
def Config.targets (c : Config) : Targets := c.generates.targets

end SampleTypes
