import SampleTypes.Proofs.Json.Alike
import SampleTypes.Proofs.Shape.Rows

/-!
# Shapes equal up to the order of fields

* `s.Alike t`     `s` and `t` have the same type and the same flags, and the fields of one, put in
                  another order, have the keys of the other and shapes alike;
* `alike_iff`     the same as a statement about the fields.
-/

namespace SampleTypes

namespace Shape

mutual

/-- equal up to the order of fields, at any depth -/
def Alike : Shape → Shape → Prop
  | ⟨t, array, opt, null, fs⟩, s =>
    t = s.type ∧ array = s.isArray ∧ opt = s.isOptional ∧ null = s.isNullable ∧
      ∃ hs, AlikeFields fs hs ∧ hs.Perm s.fields

/-- the same keys in the same order, with shapes alike -/
def AlikeFields : List (String × Shape) → List (String × Shape) → Prop
  | [], gs => gs = []
  | (k, s) :: fs, gs => ∃ t hs, gs = (k, t) :: hs ∧ Alike s t ∧ AlikeFields fs hs

end

/-- the same key, and shapes alike -/
def AlikeField (p q : String × Shape) : Prop := p.1 = q.1 ∧ Alike p.2 q.2

theorem alikeFields_iff_forall₂ {fs gs : List (String × Shape)} :
    AlikeFields fs gs ↔ List.Forall₂ AlikeField fs gs := by
  induction fs generalizing gs with
  | nil => rw [AlikeFields, List.forall₂_nil_left_iff]
  | cons p fs ih =>
    obtain ⟨k, s⟩ := p
    rw [AlikeFields, List.forall₂_cons_left_iff]
    constructor
    · rintro ⟨t, hs, rfl, h, hfs⟩
      exact ⟨(k, t), hs, ⟨rfl, h⟩, ih.mp hfs, rfl⟩
    · rintro ⟨⟨j, t⟩, hs, ⟨hk, h⟩, hfs, rfl⟩
      obtain rfl : k = j := hk
      exact ⟨t, hs, rfl, h, ih.mpr hfs⟩

theorem alike_iff {s t : Shape} : s.Alike t ↔ s.type = t.type ∧ s.isArray = t.isArray ∧
    s.isOptional = t.isOptional ∧ s.isNullable = t.isNullable ∧
      ∃ hs, List.Forall₂ AlikeField s.fields hs ∧ hs.Perm t.fields := by
  obtain ⟨u, array, opt, null, fs⟩ := s
  rw [Alike]
  simp only [alikeFields_iff_forall₂]

mutual

theorem Alike.refl : ∀ s : Shape, s.Alike s
  | ⟨t, array, opt, null, fs⟩ => by
    rw [Alike]
    exact ⟨rfl, rfl, rfl, rfl, fs, alikeFields_refl fs, List.Perm.refl fs⟩

theorem alikeFields_refl : ∀ fs : List (String × Shape), AlikeFields fs fs
  | [] => by rw [AlikeFields]
  | (k, s) :: fs => by
    rw [AlikeFields]
    exact ⟨s, fs, rfl, Alike.refl s, alikeFields_refl fs⟩

end

theorem Alike.type_eq {s t : Shape} (h : s.Alike t) : s.type = t.type := (alike_iff.mp h).1

theorem Alike.nullable {s t : Shape} (h : s.Alike t) : s.nullable.Alike t.nullable := by
  obtain ⟨htype, harray, _, _, hfields⟩ := alike_iff.mp h
  exact alike_iff.mpr ⟨htype, harray, rfl, rfl, hfields⟩

end Shape

end SampleTypes
