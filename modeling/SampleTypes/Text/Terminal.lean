import SampleTypes.Text.Word

/-!
# Terminal sequences

An escape character and an opening bracket start a sequence that a terminal takes for a command
and not for text.  Semicolons, question marks and digits may follow, and a letter ends it; where
something else comes first, it is text.

* `sequenceLength? cs`   the length of the sequence after an escape character;
* `withoutSequences s`   a text as it is shown where there is no terminal.
-/

namespace SampleTypes.Text

/-- a character between the bracket and the letter of a sequence -/
def isParameter (c : Char) : Bool := c == ';' || c == '?' || isAsciiDigit c

/-- the number of characters up to the letter that ends a sequence -/
def parametersLength? : List Char → Option Nat
  | [] => none
  | c :: cs =>
    if isParameter c then (parametersLength? cs).map (· + 1)
    else if isAsciiLetter c then some 1
    else none

/-- the length of the sequence after an escape character -/
def sequenceLength? : List Char → Option Nat
  | '[' :: cs => (parametersLength? cs).map (· + 1)
  | _ => none

/-- the characters outside sequences, after `skip` characters of an earlier one -/
def outsideSequences : Nat → List Char → List Char
  | _, [] => []
  | skip + 1, _ :: cs => outsideSequences skip cs
  | 0, c :: cs =>
    if c = '\x1b' then
      match sequenceLength? cs with
      | some n => outsideSequences n cs
      | none => c :: outsideSequences 0 cs
    else c :: outsideSequences 0 cs

/-- a text without the sequences in it -/
def withoutSequences (s : String) : String := String.ofList (outsideSequences 0 s.toList)

end SampleTypes.Text
