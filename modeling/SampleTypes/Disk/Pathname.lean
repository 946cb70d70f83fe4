import SampleTypes.Text.Lines

/-!
# Pathnames

A pathname is written as steps between slashes.  Empty steps and `.` lead nowhere and are
dropped; `..` is kept, because where it leads depends on the disk.

* `Pathname.ofText`, `text`   from and to the written form;
* `name`, `stem`, `suffix`    the last step, without and with only the part from its last point;
* `parent`, `child`           one step less, one step more;
* `verbatim`                  the pathname with its idle steps, as the disk is asked for it.
-/

namespace SampleTypes

structure Pathname where
  /-- the slashes at the start: none for a relative pathname, else one or two -/
  slashes : Nat
  steps : List String
  deriving DecidableEq, Repr

namespace Pathname

/-- whether a step leads nowhere -/
def isIdle (step : String) : Bool := step == "" || step == "."

/-- the slashes that count at the start of a text: three or more count as one -/
def leadingSlashes (cs : List Char) : Nat :=
  match (cs.takeWhile (· == '/')).length with
  | 0 => 0
  | 2 => 2
  | _ => 1

/-- the pathname of a text with every step that is written -/
def verbatim (t : String) : Pathname :=
  ⟨leadingSlashes t.toList, (Text.splitAt '/' t.toList).map String.ofList⟩

/-- the pathname of a text -/
def ofText (t : String) : Pathname :=
  ⟨(verbatim t).slashes, (verbatim t).steps.filter (!isIdle ·)⟩

/-- the written form -/
def text (p : Pathname) : String :=
  if p.slashes = 0 && p.steps.isEmpty then "."
  else String.ofList (List.replicate p.slashes '/') ++ String.intercalate "/" p.steps

def isRelative (p : Pathname) : Bool := p.slashes == 0

/-- whether a null character stands in a step -/
def hasNull (p : Pathname) : Bool := p.steps.any fun s => s.toList.contains '\x00'

/-- the last step -/
def name (p : Pathname) : String := p.steps.getLastD ""

def parent (p : Pathname) : Pathname := ⟨p.slashes, p.steps.dropLast⟩

/-- the pathname with a step more -/
def child (p : Pathname) (step : String) : Pathname := ⟨p.slashes, p.steps ++ [step]⟩

/-- a name cut before its last point, unless nothing stands before or after that point -/
def cutName (name : List Char) : List Char × List Char :=
  match name.reverse.takeWhile (· != '.'), name.reverse.dropWhile (· != '.') with
  | last :: ending, point :: c :: start =>
    ((c :: start).reverse, point :: (last :: ending).reverse)
  | _, _ => (name, [])

/-- the last step from its last point on -/
def suffix (p : Pathname) : String := String.ofList (cutName p.name.toList).2

/-- the last step without its suffix -/
def stem (p : Pathname) : String := String.ofList (cutName p.name.toList).1

end Pathname

end SampleTypes
