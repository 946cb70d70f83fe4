import SampleTypes.Config.Expand
import SampleTypes.Config.Scalar
import SampleTypes.Config.Setting

/-!
# Checks of configuration data

A validator tells for a form and some data which value of the form the data is, or every problem
of the data.  The validator of a configuration is given; `SettingForm.check` is one.

A mapping is checked against the settings it can hold.  Each setting has a written name and a
plain one; the written one counts if both are there.  The problems of the settings come first,
in the settings' order, and then the keys that are no settings, in their own.

* `settingAt?`             the value of a setting, with the name that it stands under;
* `strays`                 the problems of keys that are no settings;
* `SettingForm.check`      the check of data against a form;
* `Config.parseWith`       configuration data after the expansion of references, or a fault;
* `Config.parse`           the same with the validator above.
-/

namespace SampleTypes

namespace Checked

/-- the value under a text key -/
def valueAt? (es : List (Key × Data)) (name : String) : Option Data :=
  (es.find? fun e => e.1 == .text name).map (·.2)

/-- the value of a setting with the name that it stands under -/
def settingAt? (es : List (Key × Data)) (n : SettingName) : Option (String × Data) :=
  match valueAt? es n.written with
  | some v => some (n.written, v)
  | none => (valueAt? es n.plain).map fun v => (n.plain, v)

/-- the check of a setting, which has to be there unless something stands in its absence -/
def settingOf (check : Data → Checked SettingValue) (absent : Option SettingValue)
    (es : List (Key × Data)) (n : SettingName) : Checked SettingValue :=
  match settingAt? es n, absent with
  | some (name, v), _ => (check v).within name
  | none, some x => .accepted x
  | none, none => .rejected [⟨[n.written], .missing⟩]

/-- the problem of a key, unless a setting is read from it -/
def stray? (used : List String) : Key → Option Problem
  | .text k => if used.contains k then none else some ⟨[k], .extra⟩
  | k => some ⟨[k.shown], .keysNotText⟩

/-- the problems of keys that are no settings -/
def strays (es : List (Key × Data)) (names : List SettingName) : List Problem :=
  let used := names.filterMap fun n => (settingAt? es n).map (·.1)
  es.filterMap fun e => stray? used e.1

/-- the checks of the items of a list, each below its index -/
def itemsOf {α : Type} (check : Data → Checked α) (xs : List Data) : Checked (List α) :=
  all (xs.zipIdx.map fun (x, i) => (check x).within (toString i))

/-- the check of a list, or of a set as a list of its members -/
def listOf {α : Type} (check : Data → Checked α) : Data → Checked (List α)
  | .list xs => itemsOf check xs
  | .set ks => itemsOf check (ks.map Data.ofKey)
  | _ => reject .notList

/-- the check of a key, and of the value under it -/
def entryOf (check : Data → Checked SettingValue) (e : Key × Data) :
    Checked (String × SettingValue) :=
  (Prod.mk <$> (textOf (.ofKey e.1)).within "[key]" <*> check e.2).within e.1.shown

/-- the check of a mapping; of two keys that are one text, of which one is given by its bytes, the
last counts -/
def entriesOf (check : Data → Checked SettingValue) :
    Data → Checked (List (String × SettingValue))
  | .mapping es => (all (es.map (entryOf check))).map Fields.ofPairs
  | _ => reject .notMapping

def textWithin (least : Nat) (v : Data) : Checked SettingValue :=
  (textOf v).andThen fun s =>
    if s.length < least then reject (.tooShort least) else .accepted (.text s)

def intWithin (limits : IntLimits) (v : Data) : Checked SettingValue :=
  (intOf v).andThen fun n =>
    match limits.complaint? n with
    | some c => reject c
    | none => .accepted (.int n)

/-- one of some names, written exactly -/
def choiceOf (names : List String) : Data → Checked SettingValue
  | .text s => if names.contains s then .accepted (.text s) else reject (.noChoice names)
  | _ => reject (.noChoice names)

/-- null, or a value that is checked -/
def orNull (check : Data → Checked SettingValue) : Data → Checked SettingValue
  | .null => .accepted .null
  | v => check v

/-- the check of a mapping with settings -/
def modelOf (name : String) (names : List SettingName)
    (check : List (Key × Data) → Checked (List (String × SettingValue))) :
    Data → Checked SettingValue
  | .mapping es => ((check es).map .mapping).besides (strays es names)
  | _ => reject (.notModel name)

end Checked

open Checked

mutual

/-- the check of data against a form -/
def SettingForm.check : SettingForm → Data → Checked SettingValue
  | .text least, v => textWithin least v
  | .bool, v => (boolOf v).map .bool
  | .int limits, v => intWithin limits v
  | .choice names, v => choiceOf names v
  | .optional f, v => orNull f.check v
  | .list f, v => (listOf f.check v).map .list
  | .mapping f, v => (entriesOf f.check v).map .mapping
  | .either f g, v => either ((f.check v).within f.label) ((g.check v).within g.label)
  | .model name ss, v => modelOf name ss.names ss.check v

/-- the checks of settings, one after the other -/
def SettingList.check :
    SettingList → List (Key × Data) → Checked (List (String × SettingValue))
  | .nil, _ => .accepted []
  | .cons n absent f rest, es =>
    both ((settingOf f.check absent es n).map fun x => ((n.plain, x) :: ·)) (rest.check es)

end

/-- a host by itself -/
def Checked.hostOf (v : Data) : Checked Host := (Host.form.check v).map Host.ofValue

/-- times by themselves -/
def Checked.timeoutOf (v : Data) : Checked Timeout := (Timeout.form.check v).map Timeout.ofValue

/-! ## the whole -/

/-- what tells for data which value of a form it is, or its problems -/
abbrev Validator := SettingForm → Data → Checked SettingValue

/-- why configuration data gives no configuration; `source` is where the data came from -/
inductive ConfigFault where
  | notObject (source kind : String)
  | unset (source name : String)
  | invalid (source : String) (problems : List Problem)
  deriving DecidableEq, Repr

/-- the message for a variable that is not set -/
def unsetMessage (name : String) : String := "Environment variable " ++ name ++ " is not set"

def ConfigFault.message : ConfigFault → String
  | .notObject source kind =>
    "Invalid config: must be an object\nConfig file: " ++ source ++ "\nReceived: " ++ kind
  | .unset source name =>
    "Invalid config: " ++ unsetMessage name ++ "\nConfig file: " ++ source
  | .invalid source problems =>
    "Invalid config\nConfig file: " ++ source ++ "\n" ++
      TypeExpr.joinTexts "\n" (problems.map Problem.line)

/-- the configuration that data without references is -/
def Config.validated (validate : Validator) (source : String) (es : List (Key × Data)) :
    Except ConfigFault Config :=
  match validate Config.form (.mapping es) with
  | .accepted x => .ok (Config.ofValue x)
  | .rejected ps => .error (.invalid source ps)

/-- the configuration that data gives under an environment -/
def Config.parseWith (validate : Validator) (source : String) (env : Environment) :
    Data → Except ConfigFault Config
  | .mapping es =>
    match Data.expandEntries env es with
    | .error name => .error (.unset source name)
    | .ok es => Config.validated validate source es
  | v => .error (.notObject source v.kindName)

/-- the configuration that data gives under an environment, by the checks above -/
def Config.parse (source : String) (env : Environment) (v : Data) : Except ConfigFault Config :=
  Config.parseWith SettingForm.check source env v

end SampleTypes
