/-!
# Log entries

What a run reports besides its result, in order.  An entry has a level and a text.
-/

namespace SampleTypes

inductive Level where
  | debug
  | info
  | warning
  | error
  deriving DecidableEq, Repr

/-- whether an entry of the level is shown without asking for details -/
def Level.isPressing : Level → Bool
  | .debug => false
  | .info => false
  | .warning => true
  | .error => true

structure Entry where
  level : Level
  text : String
  deriving DecidableEq, Repr

abbrev Log := List Entry

end SampleTypes
