import Mathlib.Data.List.Perm.Basic
import SampleTypes.Json.Printer
import SampleTypes.Proofs.Json.Structure

/-!
# Equality up to the order of fields

`Alike v w` says that `v` and `w` are equal when the order of fields does not count, at any
depth.  Floating-point numbers count as equal when they are written alike.

* `alike_obj_iff`     records are alike when the fields of one, put in another order, have the
                      keys of the other and values alike;
* `Alike.symm`        the relation is symmetric;
* `Alike.pair`        a value alike to a pair is a pair with a value alike.
-/

namespace SampleTypes

theorem map_eq_of_forall₂ {α β γ : Type} {R : α → β → Prop} {f : α → γ} {g : β → γ}
    (hR : ∀ x y, R x y → f x = g y) {xs : List α} {ys : List β} (h : List.Forall₂ R xs ys) :
    xs.map f = ys.map g := by
  induction h with
  | nil => rfl
  | cons hx _ ih => rw [List.map_cons, List.map_cons, hR _ _ hx, ih]

namespace Json

mutual

/-- equal up to the order of fields -/
def Alike : Json → Json → Prop
  | .null, w => w = .null
  | .bool b, w => w = .bool b
  | .int n, w => w = .int n
  | .float x, w => ∃ y, w = .float y ∧ x.text specials = y.text specials
  | .str s, w => w = .str s
  | .arr xs, w => ∃ ys, w = .arr ys ∧ AlikeItems xs ys
  | .obj fs, w => ∃ gs hs, w = .obj gs ∧ AlikeFields fs hs ∧ hs.Perm gs

def AlikeItems : List Json → List Json → Prop
  | [], ys => ys = []
  | x :: xs, ys => ∃ z zs, ys = z :: zs ∧ Alike x z ∧ AlikeItems xs zs

/-- the same keys in the same order, with values alike -/
def AlikeFields : List (String × Json) → List (String × Json) → Prop
  | [], gs => gs = []
  | (k, v) :: fs, gs => ∃ w hs, gs = (k, w) :: hs ∧ Alike v w ∧ AlikeFields fs hs

end

/-- the same key, and values alike -/
def AlikeField (p q : String × Json) : Prop := p.1 = q.1 ∧ Alike p.2 q.2

theorem alikeItems_iff_forall₂ {xs ys : List Json} :
    AlikeItems xs ys ↔ List.Forall₂ Alike xs ys := by
  induction xs generalizing ys with
  | nil => rw [AlikeItems, List.forall₂_nil_left_iff]
  | cons x xs ih =>
    rw [AlikeItems, List.forall₂_cons_left_iff]
    constructor
    · rintro ⟨z, zs, rfl, h, hs⟩
      exact ⟨z, zs, h, ih.mp hs, rfl⟩
    · rintro ⟨z, zs, h, hs, rfl⟩
      exact ⟨z, zs, rfl, h, ih.mpr hs⟩

theorem alikeFields_iff_forall₂ {fs gs : Record} :
    AlikeFields fs gs ↔ List.Forall₂ AlikeField fs gs := by
  induction fs generalizing gs with
  | nil => rw [AlikeFields, List.forall₂_nil_left_iff]
  | cons p fs ih =>
    obtain ⟨k, v⟩ := p
    rw [AlikeFields, List.forall₂_cons_left_iff]
    constructor
    · rintro ⟨w, hs, rfl, h, hfs⟩
      exact ⟨(k, w), hs, ⟨rfl, h⟩, ih.mp hfs, rfl⟩
    · rintro ⟨⟨j, w⟩, hs, ⟨hk, h⟩, hfs, rfl⟩
      obtain rfl : k = j := hk
      exact ⟨w, hs, rfl, h, ih.mpr hfs⟩

theorem alike_arr_iff {xs : List Json} {w : Json} :
    Alike (.arr xs) w ↔ ∃ ys, w = .arr ys ∧ List.Forall₂ Alike xs ys := by
  simp only [← alikeItems_iff_forall₂]
  rfl

theorem alike_obj_iff {fs : Record} {w : Json} :
    Alike (.obj fs) w ↔ ∃ gs hs, w = .obj gs ∧ List.Forall₂ AlikeField fs hs ∧ hs.Perm gs := by
  simp only [← alikeFields_iff_forall₂]
  rfl

theorem Alike.refl (v : Json) : Alike v v := by
  induction v using Json.induction with
  | null | bool | int | str => rfl
  | float x => exact ⟨x, rfl, rfl⟩
  | arr xs ih _ => exact alike_arr_iff.mpr ⟨xs, rfl, List.forall₂_same.mpr ih⟩
  | obj fs ih =>
    have hfs : List.Forall₂ AlikeField fs fs := List.forall₂_same.mpr fun p hp => ⟨rfl, ih p hp⟩
    exact alike_obj_iff.mpr ⟨fs, fs, rfl, hfs, List.Perm.refl fs⟩

/-- a record with its fields in another order -/
theorem alike_of_perm {fs gs : Record} (h : fs.Perm gs) : Alike (.obj fs) (.obj gs) := by
  have hfs : List.Forall₂ AlikeField fs fs :=
    List.forall₂_same.mpr fun p _ => ⟨rfl, Alike.refl p.2⟩
  exact alike_obj_iff.mpr ⟨gs, fs, rfl, hfs, h⟩

theorem Alike.symm {v w : Json} (h : Alike v w) : Alike w v := by
  induction v using Json.induction generalizing w with
  | null | bool | int | str =>
    subst h
    rfl
  | float x =>
    obtain ⟨y, rfl, e⟩ := h
    exact ⟨x, rfl, e.symm⟩
  | arr xs ih ihp =>
    obtain ⟨ys, rfl, hxs⟩ := alike_arr_iff.mp h
    refine alike_arr_iff.mpr ⟨xs, rfl, ?_⟩
    clear h ihp
    induction hxs with
    | nil => exact List.Forall₂.nil
    | cons hx _ ihs =>
      exact List.Forall₂.cons (ih _ (by simp) hx) (ihs fun x hm => ih x (List.mem_cons_of_mem _ hm))
  | obj fs ih =>
    obtain ⟨gs, hs, rfl, hfs, hp⟩ := alike_obj_iff.mp h
    have hflip : List.Forall₂ AlikeField hs fs := by
      clear h hp
      induction hfs with
      | nil => exact List.Forall₂.nil
      | cons hx _ ihs =>
        refine List.Forall₂.cons ⟨hx.1.symm, ih _ (by simp) hx.2⟩ (ihs fun p hm => ?_)
        exact ih p (List.mem_cons_of_mem _ hm)
    obtain ⟨ks, hk, hkp⟩ := List.perm_comp_forall₂ hp.symm hflip
    exact alike_obj_iff.mpr ⟨fs, ks, rfl, hk, hkp⟩

/-- every field of a record has one alike in a record alike -/
theorem exists_alikeField_of_mem {fs gs hs : Record} (h : List.Forall₂ AlikeField fs hs)
    (hp : hs.Perm gs) {p : String × Json} (hm : p ∈ fs) : ∃ q ∈ gs, AlikeField p q := by
  have hq : ∃ q ∈ hs, AlikeField p q := by
    clear hp
    induction h with
    | nil => simp at hm
    | cons hx _ ih =>
      rcases List.mem_cons.mp hm with rfl | hm
      · exact ⟨_, by simp, hx⟩
      · obtain ⟨q, hq, ha⟩ := ih hm
        exact ⟨q, List.mem_cons_of_mem _ hq, ha⟩
  obtain ⟨q, hq, ha⟩ := hq
  exact ⟨q, hp.mem_iff.mp hq, ha⟩

theorem Alike.pair {x y v : Json} (h : Alike x y) (hx : pairValue? x = some v) :
    ∃ w, pairValue? y = some w ∧ Alike v w := by
  obtain ⟨fs, rfl, i, hp⟩ := pairValue?_eq_some_iff.mp hx
  obtain ⟨gs, hs, rfl, hf, hg⟩ := alike_obj_iff.mp h
  obtain ⟨ks, hk, hkp⟩ := List.perm_comp_forall₂ hp.symm hf
  obtain ⟨⟨j, a⟩, ls, ⟨ej, ha⟩, hls, rfl⟩ := List.forall₂_cons_left_iff.mp hk
  obtain ⟨⟨l, w⟩, ms, ⟨el, hw⟩, hms, rfl⟩ := List.forall₂_cons_left_iff.mp hls
  obtain rfl := List.forall₂_nil_left_iff.mp hms
  obtain rfl : "id" = j := ej
  obtain rfl : "value" = l := el
  obtain rfl : a = .str i := ha
  exact ⟨w, pairValue?_eq_some_iff.mpr ⟨gs, rfl, i, (hkp.trans hg).symm⟩, hw⟩

theorem Alike.isIdValuePair {x y : Json} (h : Alike x y) : isIdValuePair x = isIdValuePair y := by
  have half : ∀ {a b : Json}, Alike a b → SampleTypes.isIdValuePair a = true →
      SampleTypes.isIdValuePair b = true := by
    intro a b hab ha
    obtain ⟨v, hv⟩ := Option.isSome_iff_exists.mp ha
    obtain ⟨w, hw, _⟩ := hab.pair hv
    exact Option.isSome_iff_exists.mpr ⟨w, hw⟩
  rw [Bool.eq_iff_iff]
  exact ⟨half h, half h.symm⟩

/-- values alike are both null or neither is, and so for arrays and for records -/
theorem Alike.sort {x y : Json} (h : Alike x y) :
    x.isNull = y.isNull ∧ x.isArray = y.isArray ∧ x.isRecord = y.isRecord := by
  cases x with
  | null =>
    obtain rfl : y = .null := h
    exact ⟨rfl, rfl, rfl⟩
  | bool b =>
    obtain rfl : y = .bool b := h
    exact ⟨rfl, rfl, rfl⟩
  | int n =>
    obtain rfl : y = .int n := h
    exact ⟨rfl, rfl, rfl⟩
  | float =>
    obtain ⟨_, rfl, _⟩ := h
    exact ⟨rfl, rfl, rfl⟩
  | str s =>
    obtain rfl : y = .str s := h
    exact ⟨rfl, rfl, rfl⟩
  | arr =>
    obtain ⟨_, rfl, _⟩ := h
    exact ⟨rfl, rfl, rfl⟩
  | obj =>
    obtain ⟨_, _, rfl, _⟩ := h
    exact ⟨rfl, rfl, rfl⟩

theorem Alike.isNull {x y : Json} (h : Alike x y) : x.isNull = y.isNull := h.sort.1

theorem Alike.isArray {x y : Json} (h : Alike x y) : x.isArray = y.isArray := h.sort.2.1

theorem Alike.isRecord {x y : Json} (h : Alike x y) : x.isRecord = y.isRecord := h.sort.2.2

end Json

end SampleTypes
