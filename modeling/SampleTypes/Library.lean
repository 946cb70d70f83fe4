import SampleTypes.Config.Model
import SampleTypes.Environment.File
import SampleTypes.Yaml.Value

/-!
# What files are read with

Files are read by means that are given: a reader of YAML, a reader of environment files and a
validator.  Besides what they are asked for or a fault they can end in something else, of type `ε`,
that the program makes nothing of; and so can all that goes down into nested values, where there is
no room to go deeper.

* `Library ε`      the means;
* `Library.own`    those of this project, which end in nothing else.
-/

namespace SampleTypes

structure Library (ε : Type) where
  /-- the data of a YAML file -/
  yaml : Readable → Except ε (Except Yaml.Fault Data)
  /-- the variables of an environment file added to an environment -/
  dotenv : EnvReader ε
  validate : Validator
  /-- JSON in a file is nested too deeply to be read -/
  deepText : Pathname → Readable → Option ε := fun _ _ => none
  /-- data is nested too deeply for its references to be replaced -/
  deepData : Data → Option ε := fun _ => none

def Library.own : Library Empty where
  yaml r := .ok (Yaml.read r)
  dotenv := EnvFile.reader
  validate := SettingForm.check

end SampleTypes
