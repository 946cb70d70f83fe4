import SampleTypes.Config.Basic
import SampleTypes.Config.Checked
import SampleTypes.Text.Case

/-!
# Settings

A configuration is declared as a form: what each of its settings is, within which limits, and what
stands in the absence of a setting.  A value of a form is read as the configuration that it is.

* `SettingName`      the two names of a setting;
* `SettingForm`      what a setting can hold; a mapping with settings is a `SettingList`;
* `SettingValue`     what a setting holds;
* `Host.form`, `Timeout.form`, `Generator.form`, `Config.form`   the settings of a configuration;
* `Host.ofValue`, `Timeout.ofValue`, `Generator.ofValue`, `Config.ofValue`   how values are read.
-/

namespace SampleTypes

/-- the two names of a setting -/
structure SettingName where
  written : String
  plain : String
  deriving DecidableEq, Repr

namespace SettingName

/-- a setting of one word, with one name -/
def word (w : String) : SettingName := ⟨w, w⟩

/-- a setting of two words -/
def words (a b : String) : SettingName := ⟨a ++ Text.upperFirst b, a ++ "_" ++ b⟩

def url := word "url"
def accept := word "accept"
def protocol := word "protocol"
def port := word "port"
def connect := word "connect"
def request := word "request"
def appId := words "app" "id"
def searchKey := words "search" "key"
def indexName := words "index" "name"
def lead := word "prefix"
def trail := word "postfix"
def hosts := word "hosts"
def timeout := word "timeout"
def sampleSize := words "sample" "size"
def enums := word "enums"
def overwrite := word "overwrite"
def generates := word "generates"

end SettingName

/-! ## values -/

inductive SettingValue where
  | null
  | bool (b : Bool)
  | int (n : Int)
  | text (s : String)
  | list (items : List SettingValue)
  /-- values by name: those of a mapping, or of settings under their plain names -/
  | mapping (entries : List (String × SettingValue))

namespace SettingValue

def asBool : SettingValue → Bool
  | .bool b => b
  | _ => false

def asNat : SettingValue → Nat
  | .int n => n.toNat
  | _ => 0

def asText : SettingValue → String
  | .text s => s
  | _ => ""

def asOption {α : Type} (read : SettingValue → α) : SettingValue → Option α
  | .null => none
  | v => some (read v)

def asList {α : Type} (read : SettingValue → α) : SettingValue → List α
  | .list vs => vs.map read
  | _ => []

def asEntries {α : Type} (read : SettingValue → α) : SettingValue → List (String × α)
  | .mapping es => es.map fun e => (e.1, read e.2)
  | _ => []

/-- one of some names as what it names -/
def asChoice {α : Type} (choices : List (String × α)) (otherwise : α) (v : SettingValue) : α :=
  (choices.lookup v.asText).getD otherwise

/-- the value of a setting -/
def setting (v : SettingValue) (n : SettingName) : SettingValue :=
  match v with
  | .mapping es => (es.lookup n.plain).getD .null
  | _ => .null

end SettingValue

/-! ## forms -/

/-- the limits of an integer -/
structure IntLimits where
  least : Option Int := none
  greatest : Option Int := none
  /-- a number that it has to be over -/
  bound : Option Int := none
  deriving DecidableEq, Repr

/-- what is wrong with an integer that is not within the limits -/
def IntLimits.complaint? (l : IntLimits) (n : Int) : Option Complaint :=
  (l.least.filter (n < ·)).map .below <|> (l.greatest.filter (· < n)).map .above <|>
    (l.bound.filter (n ≤ ·)).map .notOver

mutual

/-- what a setting can hold -/
inductive SettingForm where
  | text (least : Nat)
  | bool
  | int (limits : IntLimits)
  | choice (names : List String)
  | optional (f : SettingForm)
  | list (f : SettingForm)
  /-- values of a form by name -/
  | mapping (f : SettingForm)
  | either (f g : SettingForm)
  /-- settings, and no other keys -/
  | model (name : String) (settings : SettingList)

/-- settings, each with what stands in its absence unless it has to be there -/
inductive SettingList where
  | nil
  | cons (n : SettingName) (absent : Option SettingValue) (f : SettingForm) (rest : SettingList)

end

def SettingList.names : SettingList → List SettingName
  | .nil => []
  | .cons n _ _ rest => n :: rest.names

/-- the name of a form in the place of a problem -/
def SettingForm.label : SettingForm → String
  | .mapping f => "dict[str," ++ f.label ++ "]"
  | .list f => "list[" ++ f.label ++ "]"
  | .model name _ => name
  | _ => ""

/-! ## the settings of a configuration -/

def Host.form : SettingForm :=
  .model "HostConfig" <|
    .cons .url none (.text 1) <|
    .cons .accept (some (.text "readWrite")) (.choice (Access.names.map Prod.fst)) <|
    .cons .protocol (some (.text "https")) (.choice (Protocol.names.map Prod.fst)) <|
    .cons .port (some .null) (.optional (.int { least := some 1, greatest := some 65535 })) .nil

/-- times are over zero -/
def Timeout.form : SettingForm :=
  .model "TimeoutConfig" <|
    .cons .connect (some (.int 10000)) (.int { bound := some 0 }) <|
    .cons .request (some (.int 30000)) (.int { bound := some 0 }) .nil

def Generator.form : SettingForm :=
  .model "GeneratorConfig" <|
    .cons .appId none (.text 1) <|
    .cons .searchKey none (.text 0) <|
    .cons .indexName none (.text 1) <|
    .cons .lead (some (.text "")) (.text 0) <|
    .cons .trail (some (.text "")) (.text 0) <|
    .cons .hosts (some .null) (.optional (.list Host.form)) <|
    .cons .timeout (some .null) (.optional Timeout.form) <|
    .cons .sampleSize (some (.int defaultSampleSize))
      (.int { least := some 1, greatest := some 1000 }) <|
    .cons .enums (some (.bool false)) .bool .nil

/-- the output files of one group -/
def Targets.form : SettingForm := .mapping Generator.form

def Config.form : SettingForm :=
  .model "CodegenConfig" <|
    .cons .overwrite none .bool <|
    .cons .generates none (.either Targets.form (.list Targets.form)) .nil

/-! ## values as configurations -/

def Host.ofValue (v : SettingValue) : Host :=
  { url := (v.setting .url).asText
    access := (v.setting .accept).asChoice Access.names .readWrite
    protocol := (v.setting .protocol).asChoice Protocol.names .https
    port := (v.setting .port).asOption (·.asNat) }

def Timeout.ofValue (v : SettingValue) : Timeout :=
  { connect := (v.setting .connect).asNat, request := (v.setting .request).asNat }

def Generator.ofValue (v : SettingValue) : Generator :=
  { appId := (v.setting .appId).asText
    searchKey := (v.setting .searchKey).asText
    indexName := (v.setting .indexName).asText
    affixes := ⟨(v.setting .lead).asText, (v.setting .trail).asText⟩
    hosts := (v.setting .hosts).asOption (·.asList Host.ofValue)
    timeout := (v.setting .timeout).asOption Timeout.ofValue
    sampleSize := (v.setting .sampleSize).asNat
    enums := (v.setting .enums).asBool }

def Targets.ofValue (v : SettingValue) : Targets := v.asEntries Generator.ofValue

def Generates.ofValue : SettingValue → Generates
  | .list vs => .several (vs.map Targets.ofValue)
  | v => .one (Targets.ofValue v)

def Config.ofValue (v : SettingValue) : Config :=
  ⟨(v.setting .overwrite).asBool, .ofValue (v.setting .generates)⟩

end SampleTypes
