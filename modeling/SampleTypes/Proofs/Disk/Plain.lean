import Mathlib.Data.List.Induction
import Mathlib.Data.List.TakeWhile
import SampleTypes.Proofs.Disk.Growth

/-!
# Pathnames without a step up

A pathname without `..` leads to the place below its start that its steps spell, if it leads
anywhere: every place above must be a directory, and no name may be too long.

* `Pathname.isPlain`        no step leads up or nowhere;
* `Place.below b ss`        the place that the steps spell from `b`;
* `reach ss`                the steps before the first one that is too long;
* `IsUsable`                a pathname that a disk can be asked for;
* `walk_ok`, `walk_error`   how far a walk comes;
* `walk_of_directories`, `walk_of_long`   walks below directories.
-/

namespace SampleTypes

/-! ## steps and places -/

/-- a step that leads down -/
def Pathname.isDown (s : String) : Bool := !isIdle s && s != ".."

def Pathname.isPlain (p : Pathname) : Bool := p.steps.all isDown

theorem Pathname.isPlain_ofText_iff (t : String) :
    (ofText t).isPlain = true ↔ ".." ∉ (ofText t).steps := by
  have hidle : ∀ s ∈ (ofText t).steps, isIdle s = false := by
    intro s hs
    have := (List.mem_filter.mp hs).2
    simpa using this
  rw [isPlain, List.all_eq_true]
  constructor
  · intro h hup
    simpa [isDown] using h _ hup
  · intro h s hs
    have hne : s ≠ ".." := fun e => h (e ▸ hs)
    simp [isDown, hidle s hs, hne]

namespace Place

def below (b : Place) (ss : List String) : Place := ⟨b.names ++ ss⟩

theorem below_nil (b : Place) : b.below [] = b := by
  rw [below, List.append_nil]

theorem below_cons (b : Place) (s : String) (ss : List String) :
    b.below (s :: ss) = (b.child s).below ss := by
  rw [below, below, child, List.append_assoc]
  rfl

theorem parent_below_concat (b : Place) (ss : List String) (s : String) :
    (b.below (ss ++ [s])).parent = b.below ss := by
  rw [below, parent, ← List.append_assoc, List.dropLast_concat]
  rfl

theorem below_inj {b : Place} {ss ts : List String} (h : b.below ss = b.below ts) : ss = ts :=
  List.append_cancel_left (congrArg names h)

theorem step_of_isDown {s : String} (h : Pathname.isDown s = true) (b : Place) :
    b.step s = b.child s := by
  rw [Pathname.isDown, Bool.and_eq_true, Bool.not_eq_true', bne_iff_ne] at h
  rw [step, h.1, if_neg (by simp), if_neg h.2]

end Place

namespace Disk

open Pathname (isDown)

def isShort (s : String) : Bool := decide (s.utf8ByteSize ≤ stepCeiling)

/-- the steps before the first one that is too long -/
def reach (ss : List String) : List String := ss.takeWhile isShort

/-- a pathname that a disk can be asked for -/
def IsUsable (p : Pathname) : Prop :=
  p.hasNull = false ∧ p.text.utf8ByteSize ≤ pathnameCeiling

/-- the place that a pathname without a step up spells -/
def place (d : Disk) (p : Pathname) : Place := (d.start p).below p.steps

variable {d : Disk} {b : Place} {ss : List String}

theorem isShort_eq_false_iff {s : String} : isShort s = false ↔ stepCeiling < s.utf8ByteSize := by
  rw [isShort, decide_eq_false_iff_not, Nat.not_le]

theorem reach_of_all (h : ss.all isShort = true) : reach ss = ss :=
  List.takeWhile_eq_self_iff.mpr (List.all_eq_true.mp h)

theorem reach_append_of_not_all (h : ss.all isShort = false) (ts : List String) :
    reach (ss ++ ts) = reach ss := by
  obtain ⟨s, hs, hlong⟩ := List.all_eq_false.mp h
  have hlen : (ss.takeWhile isShort).length ≠ ss.length := by
    intro e
    have hself : ss.takeWhile isShort = ss :=
      (List.takeWhile_prefix isShort).eq_of_length e
    exact hlong (List.takeWhile_eq_self_iff.mp hself s hs)
  rw [reach, reach, List.takeWhile_append, if_neg hlen]

theorem reach_le (ss : List String) : reach ss <+: ss := List.takeWhile_prefix _

theorem reach_append_le (ss ts : List String) : reach ss <+: reach (ss ++ ts) := by
  cases h : ss.all isShort with
  | false => exact (reach_append_of_not_all h ts).symm ▸ List.prefix_refl (reach ss)
  | true =>
    rw [reach, reach, List.takeWhile_append_of_pos (List.all_eq_true.mp h),
      List.takeWhile_eq_self_iff.mpr (List.all_eq_true.mp h)]
    exact List.prefix_append ss _

theorem reach_mono {ts : List String} (h : ts <+: ss) : reach ts <+: reach ss := by
  obtain ⟨us, rfl⟩ := h
  exact reach_append_le ts us

/-- in a tree, what stands above an item is a directory -/
theorem IsTree.above (ht : d.IsTree) {ts : List String} (h : ts <+: ss) (hne : ts ≠ ss)
    {i : Item} (hi : d.item? (b.below ss) = some i) :
    d.item? (b.below ts) = some .directory := by
  obtain ⟨us, rfl⟩ := h
  induction us using List.reverseRecOn generalizing i with
  | nil => exact absurd (List.append_nil ts).symm hne
  | append_singleton us s ih =>
    rw [← List.append_assoc] at hi
    have hparent := ht.parent _ i hi
    rw [Place.parent_below_concat] at hparent
    by_cases hus : us = []
    · rw [hus, List.append_nil] at hparent
      exact hparent
    · exact ih (fun e => hus (List.append_right_eq_self.mp e.symm)) hparent

theorem IsTree.none_below (ht : d.IsTree) {ts : List String} (h : ts <+: ss)
    (hnone : d.item? (b.below ts) = none) : d.item? (b.below ss) = none := by
  by_cases hne : ts = ss
  · rw [← hne, hnone]
  · cases hi : d.item? (b.below ss) with
    | none => rfl
    | some i =>
      rw [ht.above h hne hi] at hnone
      exact absurd hnone (by simp)

/-! ## walks down -/

/-- a walk that comes through passes directories only, by short names -/
theorem walk_ok (hdown : ∀ s ∈ ss, isDown s = true) {q : Place} (hw : d.walk b ss = .ok q) :
    q = b.below ss ∧ ss.all isShort = true ∧
      ∀ ts, ts <+: ss → ts ≠ ss → d.item? (b.below ts) = some .directory := by
  induction ss generalizing b with
  | nil =>
    rw [walk_nil, Except.ok.injEq] at hw
    exact ⟨by rw [Place.below_nil, hw], rfl, fun ts hts hne => absurd (List.prefix_nil.mp hts) hne⟩
  | cons s ss ih =>
    obtain ⟨hs, hss⟩ := List.forall_mem_cons.mp hdown
    rw [walk_cons] at hw
    split at hw
    · simp at hw
    · simp at hw
    · rename_i hb
      split at hw
      · simp at hw
      · rename_i hshort
        rw [Place.step_of_isDown hs] at hw
        obtain ⟨hq, hall, hdirs⟩ := ih hss hw
        refine ⟨by rw [hq, Place.below_cons], ?_, fun ts hts hne => ?_⟩
        · rw [List.all_cons, hall, Bool.and_true, isShort, decide_eq_true_eq]
          exact Nat.le_of_not_lt hshort
        · cases ts with
          | nil => rw [Place.below_nil, hb]
          | cons t ts =>
            obtain ⟨rfl, hts'⟩ := List.cons_prefix_cons.mp hts
            rw [Place.below_cons]
            exact hdirs ts hts' fun e => hne (e ▸ rfl)

theorem walk_of_directories (hdown : ∀ s ∈ ss, isDown s = true) (hall : ss.all isShort = true)
    (hdirs : ∀ ts, ts <+: ss → ts ≠ ss → d.item? (b.below ts) = some .directory) :
    d.walk b ss = .ok (b.below ss) := by
  induction ss generalizing b with
  | nil => rw [walk_nil, Place.below_nil]
  | cons s ss ih =>
    obtain ⟨hs, hss⟩ := List.forall_mem_cons.mp hdown
    rw [List.all_cons, Bool.and_eq_true, isShort, decide_eq_true_eq] at hall
    have hb := hdirs [] List.nil_prefix (by simp)
    rw [Place.below_nil] at hb
    simp only [walk_cons, hb]
    rw [if_neg (Nat.not_lt.mpr hall.1), Place.step_of_isDown hs, Place.below_cons]
    refine ih hss hall.2 fun ts hts hne => ?_
    have := hdirs (s :: ts) (List.cons_prefix_cons.mpr ⟨rfl, hts⟩) (by simpa using hne)
    rwa [Place.below_cons] at this

/-- a walk that does not come through stops at a missing item, at a file, or before a long name -/
theorem walk_error (hdown : ∀ s ∈ ss, isDown s = true) {r : Refusal}
    (hw : d.walk b ss = .error r) :
    (r = .notFound ∧ ∃ ts, ts <+: ss ∧ ts ≠ ss ∧ d.item? (b.below ts) = none ∧
      ∀ us, us <+: ts → us ≠ ts → d.item? (b.below us) = some .directory) ∨
    (r = .notDirectory ∧ ∃ ts bs, ts <+: ss ∧ ts ≠ ss ∧ d.item? (b.below ts) = some (.file bs)) ∨
    (r = .nameTooLong ∧ ss.all isShort = false ∧
      ∀ ts, ts <+: reach ss → d.item? (b.below ts) = some .directory) := by
  induction ss generalizing b with
  | nil => simp [walk_nil] at hw
  | cons s ss ih =>
    obtain ⟨hs, hss⟩ := List.forall_mem_cons.mp hdown
    have hne : ([] : List String) ≠ s :: ss := by simp
    rw [walk_cons] at hw
    split at hw
    · rename_i hb
      refine .inl ⟨(Except.error.inj hw).symm, [], List.nil_prefix, hne, ?_, ?_⟩
      · rw [Place.below_nil, hb]
      · exact fun us hus hne => absurd (List.prefix_nil.mp hus) hne
    · rename_i bs hb
      refine .inr (.inl ⟨(Except.error.inj hw).symm, [], bs, List.nil_prefix, hne, ?_⟩)
      rw [Place.below_nil, hb]
    · rename_i hb
      split at hw
      · rename_i hlong
        have hs' := isShort_eq_false_iff.mpr hlong
        refine .inr (.inr ⟨(Except.error.inj hw).symm, by rw [List.all_cons, hs']; rfl, ?_⟩)
        intro ts hts
        rw [reach, List.takeWhile_cons_of_neg (by simp [hs'])] at hts
        rw [List.prefix_nil.mp hts, Place.below_nil, hb]
      · rename_i hshort
        have hs' : isShort s = true := decide_eq_true (Nat.le_of_not_lt hshort)
        -- what the rest of the way stops at is the same, one name further down
        have hcons : ∀ {ts us : List String}, ts ≠ us → s :: ts ≠ s :: us :=
          fun h e => h (List.cons.inj e).2
        rw [Place.step_of_isDown hs] at hw
        rcases ih hss hw with ⟨hr, ts, hts, hne', hnone, hdirs⟩ | ⟨hr, ts, bs, hts, hne', hfile⟩ |
          ⟨hr, hall, hdirs⟩
        · refine .inl ⟨hr, s :: ts, List.cons_prefix_cons.mpr ⟨rfl, hts⟩, hcons hne', ?_, ?_⟩
          · rw [Place.below_cons, hnone]
          · intro us hus hus'
            cases us with
            | nil => rw [Place.below_nil, hb]
            | cons u us =>
              obtain ⟨rfl, hprefix⟩ := List.cons_prefix_cons.mp hus
              rw [Place.below_cons]
              exact hdirs us hprefix fun e => hus' (e ▸ rfl)
        · refine .inr (.inl ⟨hr, s :: ts, bs, List.cons_prefix_cons.mpr ⟨rfl, hts⟩, hcons hne', ?_⟩)
          rw [Place.below_cons, hfile]
        · refine .inr (.inr ⟨hr, by rw [List.all_cons, hall, Bool.and_false], fun ts hts => ?_⟩)
          rw [reach, List.takeWhile_cons_of_pos hs'] at hts
          cases ts with
          | nil => rw [Place.below_nil, hb]
          | cons t ts =>
            obtain ⟨rfl, hts'⟩ := List.cons_prefix_cons.mp hts
            rw [Place.below_cons]
            exact hdirs ts hts'

theorem walk_of_long {s : String} (hdown : ∀ t ∈ ss ++ [s], isDown t = true)
    (hs : isShort s = false) (hdirs : ∀ ts, ts <+: ss → d.item? (b.below ts) = some .directory) :
    d.walk b (ss ++ [s]) = .error .nameTooLong := by
  have habove : ∀ ts, ts <+: ss ++ [s] → ts ≠ ss ++ [s] →
      d.item? (b.below ts) = some .directory := fun ts hts hne =>
    hdirs ts ((List.prefix_concat_iff.mp hts).resolve_left hne)
  cases hw : d.walk b (ss ++ [s]) with
  | ok q =>
    have hshort := (walk_ok hdown hw).2.1
    simp [List.all_append, hs] at hshort
  | error r =>
    rcases walk_error hdown hw with ⟨-, ts, hts, hne, hnone, -⟩ | ⟨-, ts, bs, hts, hne, hf⟩ |
      ⟨rfl, -⟩
    · exact absurd hnone (by simp [habove ts hts hne])
    · exact absurd hf (by simp [habove ts hts hne])
    · rfl

end Disk

end SampleTypes
