import SampleTypes.Disk.Pathname
import SampleTypes.Fields

/-!
# Disks

A disk is a tree of directories and files without links, with the directory from which relative
pathnames start.

* `Place`        where an item stands: the names from the root down to it;
* `Item`         a directory, or a file with its bytes;
* `Disk.item?`   the item at a place; the root is always a directory;
* `Disk.walk`    the place that steps lead to: each step must start at a directory;
* `Disk.locate`  the place that a pathname leads to;
* `Disk.status`  the item that a pathname leads to, if there is one;
* `Refusal`      why a pathname cannot be used.
-/

namespace SampleTypes

structure Place where
  names : List String
  deriving DecidableEq, Repr

namespace Place

def root : Place := ⟨[]⟩

/-- the place one step up; the root is its own parent -/
def parent (p : Place) : Place := ⟨p.names.dropLast⟩

/-- the place of an item of a directory -/
def child (p : Place) (name : String) : Place := ⟨p.names ++ [name]⟩

/-- the place after a step -/
def step (p : Place) (s : String) : Place :=
  if Pathname.isIdle s then p else if s = ".." then p.parent else p.child s

/-- the pathname of a place from the root -/
def pathname (p : Place) : Pathname := ⟨1, p.names⟩

theorem parent_child (p : Place) (name : String) : (p.child name).parent = p := by
  cases p
  simp [parent, child]

end Place

inductive Item where
  | directory
  | file (bytes : List Nat)
  deriving DecidableEq, Repr

/-- why a pathname cannot be used -/
inductive Refusal where
  | notFound
  | exists
  | notDirectory
  | isDirectory
  | nameTooLong
  | nullCharacter
  deriving DecidableEq, Repr

/-- the number of a refusal; a null character is refused before the disk is asked -/
def Refusal.code : Refusal → Nat
  | .notFound => 2
  | .exists => 17
  | .notDirectory => 20
  | .isDirectory => 21
  | .nameTooLong => 36
  | .nullCharacter => 0

def Refusal.message : Refusal → String
  | .notFound => "No such file or directory"
  | .exists => "File exists"
  | .notDirectory => "Not a directory"
  | .isDirectory => "Is a directory"
  | .nameTooLong => "File name too long"
  | .nullCharacter => "embedded null byte"

structure Disk where
  items : List (Place × Item) := []
  /-- where relative pathnames start -/
  here : Place := .root

namespace Disk

/-- the item at a place -/
def item? (d : Disk) (p : Place) : Option Item :=
  if p = .root then some .directory else d.items.lookup p

/-- the disk with an item put at a place -/
def put (d : Disk) (p : Place) (i : Item) : Disk := { d with items := Fields.put p i d.items }

/-- the most bytes of a step -/
def stepCeiling : Nat := 255

/-- the most bytes of a pathname -/
def pathnameCeiling : Nat := 4095

/-- the place that steps lead to from a place -/
def walk (d : Disk) : Place → List String → Except Refusal Place
  | p, [] => .ok p
  | p, s :: ss =>
    match d.item? p with
    | none => .error .notFound
    | some (.file _) => .error .notDirectory
    | some .directory =>
      if stepCeiling < s.utf8ByteSize then .error .nameTooLong else walk d (p.step s) ss

/-- the place that a pathname leads to -/
def locate (d : Disk) (p : Pathname) : Except Refusal Place :=
  if p.hasNull then .error .nullCharacter
  else if pathnameCeiling < p.text.utf8ByteSize then .error .nameTooLong
  else d.walk (if p.isRelative then d.here else .root) p.steps

/-- the item that a pathname leads to, if there is one; only the length of a name is refused -/
def status (d : Disk) (p : Pathname) : Except Refusal (Option Item) :=
  match d.locate p with
  | .ok place => .ok (d.item? place)
  | .error .nameTooLong => .error .nameTooLong
  | .error _ => .ok none

def isDirectory (d : Disk) (p : Pathname) : Except Refusal Bool :=
  (d.status p).map (· == some .directory)

/-- whether a pathname leads to a file -/
def isFile (d : Disk) (p : Pathname) : Except Refusal Bool :=
  (d.status p).map fun
    | some (.file _) => true
    | _ => false

/-- the bytes of the file that a pathname leads to -/
def bytes (d : Disk) (p : Pathname) : Except Refusal (List Nat) := do
  match d.item? (← d.locate p) with
  | none => throw .notFound
  | some .directory => throw .isDirectory
  | some (.file bs) => return bs

/-- the steps of a pathname followed by name alone: `..` takes the step before it back -/
def resolveSteps : List String → List String → List String
  | done, [] => done
  | done, s :: ss => resolveSteps (if s = ".." then done.dropLast else done ++ [s]) ss

/-- the pathname from the root, without `..`, of a pathname -/
def resolve (d : Disk) (p : Pathname) : Except Refusal Pathname :=
  if p.hasNull then .error .nullCharacter
  else .ok ⟨1, resolveSteps (if p.isRelative then d.here.names else []) p.steps⟩

theorem item?_root (d : Disk) : d.item? .root = some .directory := by simp [item?]

theorem item?_put_self (d : Disk) {p : Place} (h : p ≠ .root) (i : Item) :
    (d.put p i).item? p = some i := by
  simp [item?, h, put, Fields.lookup_put_self]

theorem item?_put_of_ne (d : Disk) {p q : Place} (h : q ≠ p) (i : Item) :
    (d.put p i).item? q = d.item? q := by
  simp [item?, put, Fields.lookup_put_of_ne h]

theorem walk_nil (d : Disk) (p : Place) : d.walk p [] = .ok p := rfl

end Disk

end SampleTypes
