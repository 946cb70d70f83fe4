import SampleTypes.Shape.Basic

/-!
# All shapes of a tree

`Everywhere P s` says that `P` holds of the shape `s` and of all shapes below it: of all its rows.
-/

namespace SampleTypes.Shape

mutual

/-- depth and key do not count for the shapes of a tree -/
theorem shapes_rowsAt (d e : Nat) (k j : String) :
    ∀ s : Shape, (rowsAt d k s).map (·.shape) = (rowsAt e j s).map (·.shape)
  | ⟨t, a, o, n, fs⟩ => by
    rw [rowsAt, rowsAt, List.map_cons, List.map_cons, shapes_rowsOfFields (d + 1) (e + 1) fs]

theorem shapes_rowsOfFields (d e : Nat) : ∀ fs : List (String × Shape),
    (rowsOfFields d fs).map (·.shape) = (rowsOfFields e fs).map (·.shape)
  | [] => by rw [rowsOfFields, rowsOfFields]
  | (k, s) :: fs => by
    rw [rowsOfFields, rowsOfFields, List.map_append, List.map_append, shapes_rowsAt d e k k s,
      shapes_rowsOfFields d e fs]

end

/-- whether `P` holds of all shapes of a tree -/
def Everywhere (P : Shape → Prop) (s : Shape) : Prop := ∀ row ∈ s.rows, P row.shape

theorem everywhere_iff_forall {P : Shape → Prop} {s : Shape} (d : Nat) (k : String) :
    s.Everywhere P ↔ ∀ t ∈ (rowsAt d k s).map (·.shape), P t := by
  rw [shapes_rowsAt d 0 k "" s, List.forall_mem_map]
  rfl

theorem everywhere_iff {P : Shape → Prop} {s : Shape} :
    s.Everywhere P ↔ P s ∧ ∀ f ∈ s.fields, f.2.Everywhere P := by
  obtain ⟨t, a, o, n, fs⟩ := s
  rw [everywhere_iff_forall 0 "", rowsAt, List.map_cons, List.forall_mem_cons]
  refine and_congr Iff.rfl ?_
  show _ ↔ ∀ f ∈ fs, f.2.Everywhere P
  induction fs with
  | nil => simp [rowsOfFields]
  | cons f fs ih =>
    obtain ⟨k, s⟩ := f
    rw [rowsOfFields, List.map_append, List.forall_mem_append, ih, List.forall_mem_cons,
      ← everywhere_iff_forall]

theorem Everywhere.self {P : Shape → Prop} {s : Shape} (h : s.Everywhere P) : P s :=
  (everywhere_iff.mp h).1

theorem Everywhere.mono {P Q : Shape → Prop} (hPQ : ∀ s, P s → Q s) {s : Shape}
    (h : s.Everywhere P) : s.Everywhere Q := fun row hr => hPQ _ (h row hr)

end SampleTypes.Shape
