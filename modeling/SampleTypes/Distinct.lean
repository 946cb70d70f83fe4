/-!
# First occurrences

`distinctBy key xs` keeps of the items with one key the first, in the order of the list;
`distinct xs` does so for equal items.  The main facts: the keys that occur stay the same, and
no key occurs twice.
-/

namespace SampleTypes

variable {α κ : Type} [DecidableEq κ]

/-- of the items with one key, the first -/
def distinctBy (key : α → κ) : List α → List α
  | [] => []
  | x :: xs => x :: (distinctBy key xs).filter fun y => !decide (key y = key x)

/-- the list without repetitions -/
def distinct [DecidableEq α] (xs : List α) : List α := distinctBy id xs

theorem distinctBy_nil (key : α → κ) : distinctBy key ([] : List α) = [] := rfl

theorem distinctBy_cons (key : α → κ) (x : α) (xs : List α) :
    distinctBy key (x :: xs) =
      x :: (distinctBy key xs).filter fun y => !decide (key y = key x) := rfl

theorem mem_of_mem_distinctBy {key : α → κ} {y : α} {xs : List α}
    (h : y ∈ distinctBy key xs) : y ∈ xs := by
  induction xs with
  | nil => simp [distinctBy] at h
  | cons x xs ih =>
    rw [distinctBy_cons, List.mem_cons, List.mem_filter] at h
    rcases h with rfl | h
    · simp
    · exact List.mem_cons_of_mem _ (ih h.1)

/-- every key of the list occurs among the items kept -/
theorem exists_mem_distinctBy {key : α → κ} {y : α} {xs : List α} (h : y ∈ xs) :
    ∃ z ∈ distinctBy key xs, key z = key y := by
  induction xs with
  | nil => simp at h
  | cons x xs ih =>
    by_cases hk : key y = key x
    · exact ⟨x, by simp [distinctBy_cons], hk.symm⟩
    · rcases List.mem_cons.mp h with rfl | h
      · exact absurd rfl hk
      · obtain ⟨z, hz, e⟩ := ih h
        refine ⟨z, ?_, e⟩
        rw [distinctBy_cons]
        refine List.mem_cons_of_mem _ (List.mem_filter.mpr ⟨hz, ?_⟩)
        simp [e, hk]

/-- no key occurs twice among the items kept -/
theorem pairwise_distinctBy (key : α → κ) (xs : List α) :
    (distinctBy key xs).Pairwise fun a b => key a ≠ key b := by
  induction xs with
  | nil => simp [distinctBy]
  | cons x xs ih =>
    rw [distinctBy_cons, List.pairwise_cons]
    refine ⟨fun y hy => ?_, ih.filter _⟩
    have := (List.mem_filter.mp hy).2
    simpa using fun e => by simp [e] at this

theorem mem_distinct [DecidableEq α] {x : α} {xs : List α} : x ∈ distinct xs ↔ x ∈ xs := by
  constructor
  · exact mem_of_mem_distinctBy
  · intro h
    have hd : ∃ z ∈ distinctBy id xs, id z = id x := exists_mem_distinctBy h
    obtain ⟨z, hz, e⟩ := hd
    have e : z = x := e
    exact e ▸ hz

theorem nodup_distinct [DecidableEq α] (xs : List α) : (distinct xs).Nodup :=
  pairwise_distinctBy id xs

end SampleTypes
