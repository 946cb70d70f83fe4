import SampleTypes.Disk.Basic
import SampleTypes.Log
import SampleTypes.Text.Decode
import SampleTypes.Text.Quoted

/-!
# Writing to a disk

A write can fail half way, so every operation gives the disk it leaves behind also when it fails.
All characters of a text have an encoding; a text that has none is not for the disk (`Run.System`).

* `Failure`          a refusal with the pathname that was refused;
* `Disk.makeDirs`    a directory with the directories above it, as far as they are missing;
* `Disk.write`       a file with new bytes in place of the old ones;
* `Disk.save`        a text saved under the policies: an existing item is replaced only when
                     that is allowed, and a dry run changes nothing;
* `Disk.changes`     what is new or different on a disk, in the order of the pathnames.
-/

namespace SampleTypes

/-- a refused pathname -/
structure Failure where
  refusal : Refusal
  path : Pathname
  deriving DecidableEq, Repr

def Failure.message (f : Failure) : String :=
  "[Errno " ++ toString f.refusal.code ++ "] " ++ f.refusal.message ++ ": " ++
    Text.quoted f.path.text

namespace Disk

/-- the disk with a new directory in a directory that exists -/
def makeDir (d : Disk) (p : Pathname) : Except Refusal Disk := do
  let place ← d.locate p
  match d.item? place with
  | some _ => throw .exists
  | none => return d.put place .directory

/-- a refused directory is accepted after all if it is there -/
def unlessDirectory (d : Disk) (p : Pathname) (r : Refusal) : Except Failure Unit :=
  match r, d.isDirectory p with
  | .nullCharacter, _ => .error ⟨r, p⟩
  | .notFound, _ => .error ⟨r, p⟩
  | _, .ok true => .ok ()
  | _, _ => .error ⟨r, p⟩

/-- the directory of the steps, the last one first, and the missing ones above it -/
def makeDirsBackward (d : Disk) (slashes : Nat) : List String → Except Failure Unit × Disk
  | [] =>
    match d.makeDir ⟨slashes, []⟩ with
    | .ok d => (.ok (), d)
    | .error r => (d.unlessDirectory ⟨slashes, []⟩ r, d)
  | s :: above =>
    let p : Pathname := ⟨slashes, (s :: above).reverse⟩
    match d.makeDir p with
    | .ok d => (.ok (), d)
    | .error .notFound =>
      match d.makeDirsBackward slashes above with
      | (.error f, d) => (.error f, d)
      | (.ok (), d) =>
        match d.makeDir p with
        | .ok d => (.ok (), d)
        | .error r => (d.unlessDirectory p r, d)
    | .error r => (d.unlessDirectory p r, d)

/-- a directory and the missing ones above it -/
def makeDirs (d : Disk) (p : Pathname) : Except Failure Unit × Disk :=
  d.makeDirsBackward p.slashes p.steps.reverse

/-- the disk with a file of these bytes -/
def write (d : Disk) (p : Pathname) (bytes : List Nat) : Except Failure Disk :=
  match d.locate p with
  | .error r => .error ⟨r, p⟩
  | .ok place =>
    match d.item? place with
    | some .directory => .error ⟨.isDirectory, p⟩
    | _ => .ok (d.put place (.file bytes))

/-- what may happen to the disk -/
structure Policy where
  overwrite : Bool := false
  dryRun : Bool := false

/-- an attempt to save: whether the text was written, the disk and the log -/
structure Saved where
  result : Except Failure Bool
  disk : Disk
  log : Log := []

def skipEntry (p : Pathname) : Entry :=
  { level := .warning,
    text := "Skipping " ++ p.text ++ ": file exists and overwrite is disabled" }

def dryRunEntry (p : Pathname) (content : String) : Entry :=
  { level := .info,
    text := "[DRY-RUN] Would write " ++ toString content.utf8ByteSize ++ " bytes to " ++ p.text }

def writtenEntry (p : Pathname) : Entry := { level := .debug, text := "Wrote " ++ p.text }

/-- a text written to a file, with the directories above it -/
def saveThrough (d : Disk) (p : Pathname) (content : String) : Saved :=
  match d.makeDirs p.parent with
  | (.error f, d) => ⟨.error f, d, []⟩
  | (.ok (), d) =>
    match d.write p (Text.utf8 content) with
    | .error f => ⟨.error f, d, []⟩
    | .ok d => ⟨.ok true, d, [writtenEntry p]⟩

/-- a text saved under the policies -/
def save (d : Disk) (p : Pathname) (content : String) (policy : Policy) : Saved :=
  match d.status p with
  | .error r => ⟨.error ⟨r, p⟩, d, []⟩
  | .ok item =>
    if item.isSome && !policy.overwrite then ⟨.ok false, d, [skipEntry p]⟩
    else if policy.dryRun then ⟨.ok true, d, [dryRunEntry p content]⟩
    else d.saveThrough p content

/-- the pathname of a place from a directory, if it stands below it; a directory's ends in a
slash -/
def relativeText? (base place : Place) (i : Item) : Option String :=
  if base.names.isPrefixOf place.names && base.names.length < place.names.length then
    let text := String.intercalate "/" (place.names.drop base.names.length)
    some (if i = .directory then text ++ "/" else text)
  else none

/-- what is new or different below a directory, in the order of the pathnames -/
def changes (before after : Disk) (base : Place) : List (String × Item) :=
  Fields.sorted <| after.items.filterMap fun (place, i) =>
    if before.item? place = some i then none
    else (relativeText? base place i).map fun t => (t, i)

theorem save_dryRun_disk (d : Disk) (p : Pathname) (content : String) (overwrite : Bool) :
    (d.save p content ⟨overwrite, true⟩).disk = d := by
  unfold save
  split
  · rfl
  · split
    · rfl
    · rfl

end Disk

end SampleTypes
