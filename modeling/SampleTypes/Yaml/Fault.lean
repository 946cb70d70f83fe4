import SampleTypes.Text.Decode

/-!
# Faults of YAML texts

* `ValueFault`   why a scalar has no value of the kind that is asked for;
* `Fault`        why a text gives no data.
-/

namespace SampleTypes.Yaml

/-- why a scalar has no value of the kind that is asked for -/
inductive ValueFault where
  /-- nothing stands where a number has to -/
  | nothingWritten
  /-- a number is not written like one, or a time does not exist -/
  | noSuchValue
  /-- a truth value is not one of its words -/
  | noSuchWord
  /-- a time is not written like one -/
  | noSuchTime
  /-- a time is given as the default of a mapping -/
  | timeInMapping
  /-- a number is larger than a machine's numbers of its kind -/
  | tooLarge
  deriving DecidableEq, Repr

/-- why a text gives no data -/
inductive Fault where
  | malformed
  /-- the bytes of the text go wrong where reading has come to -/
  | notText (f : Text.DecodeFault)
  | noValue (f : ValueFault)
  deriving DecidableEq, Repr

end SampleTypes.Yaml
