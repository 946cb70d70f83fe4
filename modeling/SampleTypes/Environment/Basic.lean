import SampleTypes.Fields

/-!
# Environments

An environment is a list of variables with their values, each variable once.  A variable that is
set, be it to the empty text, is never changed: `adopt` only adds variables.
-/

namespace SampleTypes

/-- the variables that are set, each once -/
abbrev Environment := List (String × String)

namespace Environment

/-- the environment with a variable more, unless it is set already -/
def adoptOne (env : Environment) (name value : String) : Environment :=
  if Fields.has name env then env else env ++ [(name, value)]

/-- the environment with the variables that are not set yet -/
def adopt (env : Environment) (vars : List (String × String)) : Environment :=
  vars.foldl (fun env v => env.adoptOne v.1 v.2) env

end Environment

end SampleTypes
