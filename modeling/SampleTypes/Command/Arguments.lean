import SampleTypes.Distinct
import SampleTypes.Text.Close
import SampleTypes.Text.Quoted

/-!
# Command line arguments

* `OptionKind`       a switch, a question, or an option with a value;
* `OptionSpec`       an option with its names;
* `Arguments`        the options given, in order, and the other arguments;
* `readArguments`    the arguments of a command line.  A long option can have its value after an
                     equals sign, a short one right after its letter, and short options without
                     values can stand together; after `--` there are no options.
-/

namespace SampleTypes.Command

/-- what the value of an option has to be -/
inductive Demand where
  | text
  /-- an integer of at least one -/
  | count
  /-- the pathname of a file, which need not be there -/
  | file
  deriving DecidableEq, Repr

inductive OptionKind where
  /-- given or not -/
  | switch
  /-- answered instead of running the command -/
  | question
  | value (d : Demand)
  deriving DecidableEq, Repr

/-- an option: the long name it is known by, and a short one -/
structure OptionSpec where
  long : String
  kind : OptionKind
  short : Option Char := none
  deriving DecidableEq, Repr

namespace OptionSpec

def isQuestion (o : OptionSpec) : Bool := o.kind == .question

def takesValue (o : OptionSpec) : Bool :=
  match o.kind with
  | .value _ => true
  | _ => false

/-- the short name with its dash -/
def shortName (c : Char) : String := String.ofList ['-', c]

/-- the names as a message gives them -/
def title (o : OptionSpec) : String :=
  let long := "\x27" ++ o.long ++ "\x27"
  match o.short with
  | none => long
  | some c => long ++ " / \x27" ++ shortName c ++ "\x27"

end OptionSpec

/-- an option that was given, with its value -/
structure Given where
  option : OptionSpec
  value : Option String := none
  deriving DecidableEq, Repr

structure Arguments where
  given : List Given
  others : List String
  deriving Repr

namespace Arguments

/-- whether an option was given -/
def has (a : Arguments) (o : OptionSpec) : Bool := a.given.any (·.option = o)

/-- the value of an option; the last one counts -/
def value? (a : Arguments) (o : OptionSpec) : Option String :=
  (a.given.reverse.find? (·.option = o)).bind (·.value)

/-- the options that were given, in the order of their first places -/
def options (a : Arguments) : List OptionSpec := distinct (a.given.map (·.option))

end Arguments

/-- why arguments cannot be read -/
inductive ArgumentFault where
  | noSuchOption (name : String) (close : List String)
  | needsValue (name : String)
  | takesNoValue (name : String)
  deriving DecidableEq, Repr

/-- a suggestion of close names -/
def suggestion : List String → String
  | [] => ""
  | [a] => " Did you mean " ++ Text.quoted a ++ "?"
  | as => " (Did you mean one of: " ++ String.intercalate ", " (as.map Text.quoted) ++ "?)"

def ArgumentFault.message : ArgumentFault → String
  | .noSuchOption name close => "No such option " ++ Text.quoted name ++ "." ++ suggestion close
  | .needsValue name => "Option " ++ Text.quoted name ++ " requires an argument."
  | .takesNoValue name => "Option " ++ Text.quoted name ++ " does not take a value."

/-- what an argument gives: options, and the name of one at its end that still wants a value -/
structure Step where
  given : List Given
  wanting : Option (OptionSpec × String) := none

/-- the characters before and after the first equals sign -/
def cutAtEquals : List Char → Option (List Char × List Char)
  | [] => none
  | c :: cs => if c = '=' then some ([], cs) else (cutAtEquals cs).map fun p => (c :: p.1, p.2)

/-- an argument as the name of a long option, with a value behind an equals sign -/
def nameAndValue (arg : String) : String × Option String :=
  match cutAtEquals arg.toList with
  | none => (arg, none)
  | some (name, value) => (String.ofList name, some (String.ofList value))

/-- an argument as a long option -/
def longOption (os : List OptionSpec) (arg : String) : Except ArgumentFault Step :=
  let (name, value) := nameAndValue arg
  match os.find? (·.long == name) with
  | none => .error (.noSuchOption name (Text.closeTo name (os.map (·.long))))
  | some o =>
    match o.takesValue, value with
    | true, some v => .ok { given := [⟨o, some v⟩] }
    | true, none => .ok { given := [], wanting := some (o, name) }
    | false, some _ => .error (.takesNoValue name)
    | false, none => .ok { given := [⟨o, none⟩] }

/-- the characters after a dash as short options -/
def shortOptions (os : List OptionSpec) : List Char → Except ArgumentFault Step
  | [] => .ok { given := [] }
  | c :: cs =>
    let name := OptionSpec.shortName c
    match os.find? (·.short == some c) with
    | none => .error (.noSuchOption name [])
    | some o =>
      if o.takesValue then
        match cs with
        | [] => .ok { given := [], wanting := some (o, name) }
        | cs => .ok { given := [⟨o, some (String.ofList cs)⟩] }
      else (shortOptions os cs).map fun s => { s with given := ⟨o, none⟩ :: s.given }

/-- whether an argument is one for options: a dash with something after it -/
def isOption (arg : String) : Bool :=
  match arg.toList with
  | '-' :: _ :: _ => true
  | _ => false

/-- an argument for options -/
def optionStep (os : List OptionSpec) (arg : String) : Except ArgumentFault Step :=
  match longOption os arg with
  | .ok s => .ok s
  | .error (.noSuchOption name close) =>
    match arg.toList with
    | '-' :: '-' :: _ => .error (.noSuchOption name close)
    | cs => shortOptions os (cs.drop 1)
  | .error f => .error f

/-- arguments with options put before those already read -/
def Arguments.after (given : List Given) (a : Arguments) : Arguments :=
  { a with given := given ++ a.given }

/-- the arguments of a command line; unless options and other arguments may be mixed, options end
at the first other argument -/
def readArguments (os : List OptionSpec) (mixed : Bool) :
    List String → Except ArgumentFault Arguments
  | [] => .ok ⟨[], []⟩
  | arg :: args =>
    if arg = "--" then .ok ⟨[], args⟩
    else if isOption arg then
      match optionStep os arg with
      | .error f => .error f
      | .ok ⟨given, none⟩ => (readArguments os mixed args).map (·.after given)
      | .ok ⟨given, some (o, name)⟩ =>
        match args with
        | [] => .error (.needsValue name)
        | value :: args =>
          (readArguments os mixed args).map (·.after (given ++ [⟨o, some value⟩]))
    else if mixed then
      (readArguments os mixed args).map fun a => { a with others := arg :: a.others }
    else .ok ⟨[], arg :: args⟩

end SampleTypes.Command
