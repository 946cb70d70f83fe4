/-!
# Steps that succeed

* `map_ok_iff`                    a result that is changed afterwards;
* `mapM_eq_ok`, `foldlM_eq_ok`    steps over a list that may fail but do not.
-/

namespace SampleTypes

variable {α β ε : Type} {xs : List α}

theorem map_ok_iff {x : Except ε α} {f : α → β} {b : β} :
    x.map f = .ok b ↔ ∃ a, x = .ok a ∧ f a = b := by
  cases x <;> simp [Except.map]

theorem mapM_eq_ok {f : α → Except ε β} {g : α → β} (h : ∀ x ∈ xs, f x = .ok (g x)) :
    xs.mapM f = .ok (xs.map g) := by
  induction xs with
  | nil => rfl
  | cons x xs ih =>
    rw [List.mapM_cons, h x (by simp), ih fun y hy => h y (List.mem_cons_of_mem _ hy)]
    rfl

theorem foldlM_eq_ok {f : β → α → Except ε β} {g : β → α → β}
    (h : ∀ x ∈ xs, ∀ b, f b x = .ok (g b x)) (b : β) : xs.foldlM f b = .ok (xs.foldl g b) := by
  induction xs generalizing b with
  | nil => rfl
  | cons x xs ih =>
    rw [List.foldlM_cons, h x (by simp), List.foldl_cons]
    exact ih (fun y hy => h y (List.mem_cons_of_mem _ hy)) (g b x)

end SampleTypes
