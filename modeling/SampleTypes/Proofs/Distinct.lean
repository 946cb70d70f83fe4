import SampleTypes.Distinct

/-!
# Keeping first occurrences

How `distinctBy` goes together with maps, filters and folds.

* `distinctBy_map`, `filter_distinctBy`   it commutes with maps, and with filters that see the
                                          key only;
* `find?_distinctBy`                      nor does it hide the first item of a key;
* `distinctBy_congr`                      keys that tell apart the same items keep the same;
* `distinctBy_distinctBy`                 a finer selection before a coarser one is not noticed;
* `forall_mem_distinctBy`                 nor is it by a test that sees the key only;
* `distinctBy_append`                     what is kept of two lists in a row;
* `length_distinct_eq_iff`                all is kept exactly if nothing is repeated;
* `FirstSeen xs ys`                       the items of `xs` in the order of their first
                                          appearance, which is what `distinct` gives;
* `foldl_distinctBy`                      nor by a fold in which an item that has been there
                                          before changes nothing.
-/

namespace SampleTypes

variable {α β κ μ : Type} [DecidableEq κ] [DecidableEq μ]

theorem distinctBy_map (key : β → κ) (f : α → β) (xs : List α) :
    distinctBy key (xs.map f) = (distinctBy (fun x => key (f x)) xs).map f := by
  induction xs with
  | nil => rfl
  | cons x xs ih =>
    rw [List.map_cons, distinctBy_cons, distinctBy_cons, ih, List.map_cons, List.filter_map]
    rfl

/-- keys that tell apart the same items of a list keep the same -/
theorem distinctBy_congr {key : α → κ} {key' : α → μ} {xs : List α}
    (h : ∀ x ∈ xs, ∀ y ∈ xs, key x = key y ↔ key' x = key' y) :
    distinctBy key xs = distinctBy key' xs := by
  induction xs with
  | nil => rfl
  | cons x xs ih =>
    have hxs : ∀ y ∈ xs, ∀ z ∈ xs, key y = key z ↔ key' y = key' z := fun y hy z hz =>
      h y (List.mem_cons_of_mem _ hy) z (List.mem_cons_of_mem _ hz)
    rw [distinctBy_cons, distinctBy_cons, ih hxs]
    refine congrArg (x :: ·) (List.filter_congr fun y hy => ?_)
    have hy : y ∈ xs := mem_of_mem_distinctBy hy
    rw [decide_eq_decide.mpr (h y (List.mem_cons_of_mem _ hy) x List.mem_cons_self)]

theorem filter_distinctBy {key : α → κ} {p : α → Bool} (hp : ∀ x y, key x = key y → p x = p y)
    (xs : List α) : (distinctBy key xs).filter p = distinctBy key (xs.filter p) := by
  induction xs with
  | nil => rfl
  | cons x xs ih =>
    have swap : ((distinctBy key xs).filter fun y => !decide (key y = key x)).filter p =
        (distinctBy key (xs.filter p)).filter fun y => !decide (key y = key x) := by
      rw [← ih, List.filter_filter, List.filter_filter]
      exact List.filter_congr fun y _ => Bool.and_comm _ _
    rw [distinctBy_cons, List.filter_cons, List.filter_cons, swap]
    by_cases hx : p x = true
    · rw [if_pos hx, if_pos hx, distinctBy_cons]
    · rw [if_neg hx, if_neg hx]
      refine List.filter_eq_self.mpr fun y hy => ?_
      have hpy : p y = true := (List.mem_filter.mp (mem_of_mem_distinctBy hy)).2
      have hne : key y ≠ key x := fun e => hx ((hp x y e.symm).trans hpy)
      simpa using hne

/-- the first item that passes a test that sees the key only is kept -/
theorem find?_distinctBy {key : α → κ} {p : α → Bool} (hp : ∀ x y, key x = key y → p x = p y)
    (xs : List α) : (distinctBy key xs).find? p = xs.find? p := by
  rw [← List.head?_filter, filter_distinctBy hp, ← List.head?_filter]
  cases xs.filter p <;> rfl

/-- the coarser selection `coarse` does not notice that a finer one went before it -/
theorem distinctBy_distinctBy {fine : α → κ} {coarse : α → μ}
    (h : ∀ x y, fine x = fine y → coarse x = coarse y) (xs : List α) :
    distinctBy coarse (distinctBy fine xs) = distinctBy coarse xs := by
  induction xs with
  | nil => rfl
  | cons x xs ih =>
    rw [distinctBy_cons, distinctBy_cons, distinctBy_cons, ← ih]
    congr 1
    have hc : ∀ a b, coarse a = coarse b →
        (!decide (coarse a = coarse x)) = !decide (coarse b = coarse x) := by
      intro a b e
      rw [e]
    rw [filter_distinctBy hc, filter_distinctBy hc, List.filter_filter]
    congr 1
    refine List.filter_congr fun y _ => ?_
    by_cases e : fine y = fine x
    · simp [e, h y x e]
    · simp [e]

theorem forall_mem_distinctBy {key : α → κ} {P : α → Prop}
    (hP : ∀ x y, key x = key y → P x → P y) {xs : List α} :
    (∀ x ∈ distinctBy key xs, P x) ↔ ∀ x ∈ xs, P x := by
  constructor
  · intro h x hx
    obtain ⟨z, hz, e⟩ : ∃ z ∈ distinctBy key xs, key z = key x := exists_mem_distinctBy hx
    exact hP z x e (h z hz)
  · intro h x hx
    exact h x (mem_of_mem_distinctBy hx)

theorem distinctBy_of_pairwise {key : α → κ} {xs : List α}
    (h : xs.Pairwise fun a b => key a ≠ key b) : distinctBy key xs = xs := by
  induction h with
  | nil => rfl
  | @cons x xs hx _ ih =>
    rw [distinctBy_cons, ih]
    refine congrArg (x :: ·) (List.filter_eq_self.mpr fun y hy => ?_)
    simpa using (hx y hy).symm

/-- of two lists in a row, what the second one adds is kept after the first one's items -/
theorem distinctBy_append (key : α → κ) (xs ys : List α) :
    distinctBy key (xs ++ ys) = distinctBy key xs ++
      (distinctBy key ys).filter fun y => !decide (∃ x ∈ xs, key y = key x) := by
  induction xs with
  | nil => exact (List.filter_eq_self.mpr fun y _ => by simp).symm
  | cons x xs ih =>
    rw [List.cons_append, distinctBy_cons, distinctBy_cons, ih, List.filter_append,
      List.filter_filter, List.cons_append]
    refine congrArg (fun l => x :: (_ ++ l)) (List.filter_congr fun y _ => ?_)
    by_cases e : key y = key x <;> simp [e]

/-- items whose keys occurred before are not kept -/
theorem distinctBy_append_of_seen {key : α → κ} {xs ys : List α}
    (h : ∀ y ∈ ys, ∃ x ∈ xs, key y = key x) : distinctBy key (xs ++ ys) = distinctBy key xs := by
  rw [distinctBy_append, List.filter_eq_nil_iff.mpr, List.append_nil]
  intro y hy
  simpa using h y (mem_of_mem_distinctBy hy)

theorem distinct_concat [DecidableEq α] (xs : List α) (x : α) :
    distinct (xs ++ [x]) = if x ∈ distinct xs then distinct xs else distinct xs ++ [x] := by
  have hsingle : distinctBy id [x] = [x] := rfl
  rw [distinct, distinctBy_append, hsingle, ← distinct]
  by_cases h : x ∈ xs <;> simp [mem_distinct, h]

theorem distinctBy_sublist (key : α → κ) (xs : List α) : (distinctBy key xs).Sublist xs := by
  induction xs with
  | nil => exact List.Sublist.refl []
  | cons x xs ih => exact (List.filter_sublist.trans ih).cons_cons x

theorem length_distinct_eq_iff [DecidableEq α] {xs : List α} :
    (distinct xs).length = xs.length ↔ xs.Nodup := by
  constructor
  · intro h
    rw [← (distinctBy_sublist id xs).eq_of_length h]
    exact nodup_distinct xs
  · intro h
    have hself : distinct xs = xs := distinctBy_of_pairwise h
    rw [hself]

theorem exists_key_distinctBy {key : α → κ} {xs : List α} {c : κ} :
    (∃ x ∈ distinctBy key xs, key x = c) ↔ ∃ x ∈ xs, key x = c := by
  constructor
  · rintro ⟨x, hx, e⟩
    exact ⟨x, mem_of_mem_distinctBy hx, e⟩
  · rintro ⟨x, hx, e⟩
    obtain ⟨z, hz, ez⟩ : ∃ z ∈ distinctBy key xs, key z = key x := exists_mem_distinctBy hx
    exact ⟨z, hz, ez.trans e⟩

/-- lists that keep the same keep the same keys -/
theorem exists_key_congr {key : α → κ} {xs ys : List α} (h : distinctBy key xs = distinctBy key ys)
    {c : κ} : (∃ x ∈ xs, key x = c) ↔ ∃ y ∈ ys, key y = c := by
  rw [← exists_key_distinctBy, h, exists_key_distinctBy]

theorem distinctBy_append_congr {key : α → κ} {xs xs' ys ys' : List α}
    (hx : distinctBy key xs = distinctBy key xs') (hy : distinctBy key ys = distinctBy key ys') :
    distinctBy key (xs ++ ys) = distinctBy key (xs' ++ ys') := by
  rw [distinctBy_append, distinctBy_append, hx, hy]
  congr 1
  refine List.filter_congr fun y _ => ?_
  have hseen : (∃ x ∈ xs, key y = key x) ↔ ∃ x ∈ xs', key y = key x := by
    simpa only [eq_comm] using exists_key_congr hx (c := key y)
  rw [decide_eq_decide.mpr hseen]

/-- lists that keep the same, one by one, keep the same together -/
theorem distinctBy_flatMap_congr {key : α → κ} {f g : β → List α} {bs : List β}
    (h : ∀ b ∈ bs, distinctBy key (f b) = distinctBy key (g b)) :
    distinctBy key (bs.flatMap f) = distinctBy key (bs.flatMap g) := by
  induction bs with
  | nil => rfl
  | cons b bs ih =>
    obtain ⟨hb, hbs⟩ := List.forall_mem_cons.mp h
    rw [List.flatMap_cons, List.flatMap_cons]
    exact distinctBy_append_congr hb (ih hbs)

/-- `ys` holds the items of `xs`, in the order of their first appearance there -/
structure FirstSeen [DecidableEq α] (xs ys : List α) : Prop where
  mem_iff : ∀ x, x ∈ ys ↔ x ∈ xs
  inOrder : ys.Pairwise fun a b => xs.idxOf a < xs.idxOf b

theorem firstSeen_distinct [DecidableEq α] (xs : List α) : FirstSeen xs (distinct xs) := by
  refine ⟨fun x => mem_distinct, ?_⟩
  induction xs with
  | nil => exact List.Pairwise.nil
  | cons x xs ih =>
    have hother : ∀ y ∈ (distinct xs).filter (fun y => !decide (y = x)),
        (x :: xs).idxOf y = xs.idxOf y + 1 := by
      intro y hy
      have hne : y ≠ x := by simpa using (List.mem_filter.mp hy).2
      rw [List.idxOf_cons, beq_eq_false_iff_ne.mpr hne.symm]
      rfl
    show List.Pairwise _ (x :: (distinct xs).filter fun y => !decide (y = x))
    refine List.pairwise_cons.mpr ⟨fun y hy => ?_, ?_⟩
    · rw [List.idxOf_cons_self, hother y hy]
      omega
    · refine (ih.filter _).imp_of_mem fun {a b} ha hb hab => ?_
      rw [hother a ha, hother b hb]
      omega

/-- `Has a x` tells that the state `a` has seen an item with the key of `x` -/
theorem foldl_distinctBy {key : α → κ} {f : β → α → β} (Has : β → α → Prop)
    (self : ∀ a x, Has (f a x) x) (keep : ∀ a x y, Has a x → Has (f a y) x)
    (same : ∀ a x y, key x = key y → Has a x → Has a y) (absorb : ∀ a x, Has a x → f a x = a)
    (xs : List α) (a : β) : (distinctBy key xs).foldl f a = xs.foldl f a := by
  -- items with the key of one that was seen can be left out
  have skip : ∀ (x : α) (ys : List α) (a : β), Has a x →
      (ys.filter fun y => !decide (key y = key x)).foldl f a = ys.foldl f a := by
    intro x ys
    induction ys with
    | nil => intro a _; rfl
    | cons y ys ih =>
      intro a ha
      by_cases e : key y = key x
      · have hy : f a y = a := absorb a y (same a x y e.symm ha)
        rw [List.filter_cons_of_neg (by simp [e]), List.foldl_cons, hy]
        exact ih a ha
      · rw [List.filter_cons_of_pos (by simp [e]), List.foldl_cons, List.foldl_cons]
        exact ih (f a y) (keep a x y ha)
  induction xs generalizing a with
  | nil => rfl
  | cons x xs ih =>
    rw [distinctBy_cons, List.foldl_cons, List.foldl_cons, skip x _ _ (self a x)]
    exact ih (f a x)

end SampleTypes
