import SampleTypes.Proofs.Sample.Along

/-!
# Arrays among nulls

Where the samples have nothing but arrays the merged record has all their items, so a single array
that is not empty is enough.  A null among them changes that: the values count as different kinds
then, and the first array stands for all of them, even if it is empty.

* `firstArray? vs`        the first array among some values;
* `firstKnown_arrays`     it is the first value known, where there are only arrays and nulls;
* `at?_merged_arrays`     when the merged record has an array that is not empty;
* `merged_array_hidden`   an empty array hides another one.
-/

namespace SampleTypes

/-- the items of the first array among some values -/
def firstArray? (values : List Json) : Option (List Json) := (values.filterMap Json.items?).head?

section
variable {values : List Json}

theorem find?_known_arrays (h : ∀ v ∈ values, v.isArray = true ∨ v.isNull = true) :
    values.find? (!·.isNull) = (firstArray? values).map Json.arr := by
  induction values with
  | nil => rfl
  | cons v values ih =>
    obtain ⟨hv, hvalues⟩ := List.forall_mem_cons.mp h
    cases v with
    | null => exact ih hvalues
    | arr xs => rfl
    | bool | int | float | str | obj => simp [Json.isArray, Json.isNull] at hv

/-- among arrays and nulls the first value known is the first array -/
theorem firstKnown_arrays (h : ∀ v ∈ values, v.isArray = true ∨ v.isNull = true) {xs : List Json}
    (hxs : firstArray? values = some xs) : firstKnown values = .arr xs := by
  rw [firstKnown_eq, find?_known_arrays h, hxs]
  rfl

theorem exists_firstArray? {xs : List Json} (h : .arr xs ∈ values) :
    ∃ ys, firstArray? values = some ys := by
  have hne : values.filterMap Json.items? ≠ [] :=
    List.ne_nil_of_mem (List.mem_filterMap.mpr ⟨_, h, rfl⟩)
  obtain ⟨ys, rest, e⟩ := List.exists_cons_of_ne_nil hne
  exact ⟨ys, by rw [firstArray?, e, List.head?_cons]⟩

theorem flatten_items_ne_nil {xs : List Json} (h : .arr xs ∈ values) (hne : xs ≠ []) :
    (values.filterMap Json.items?).flatten ≠ [] := by
  obtain ⟨x, rest, rfl⟩ := List.exists_cons_of_ne_nil hne
  refine List.ne_nil_of_mem (a := x) (List.mem_flatten.mpr ⟨x :: rest, ?_, List.mem_cons_self⟩)
  exact List.mem_filterMap.mpr ⟨_, h, rfl⟩

theorem ne_nil_of_distinctBy_eq {xs ys : List Json}
    (h : distinctBy Json.canonical xs = distinctBy Json.canonical ys) (hys : ys ≠ []) :
    xs ≠ [] := by
  rintro rfl
  obtain ⟨y, rest, rfl⟩ := List.exists_cons_of_ne_nil hys
  rw [distinctBy_nil, distinctBy_cons] at h
  exact List.cons_ne_nil _ _ h.symm

/-- what stands for arrays and nulls is an array, which is not empty if there is no null or if the
first array is not empty -/
theorem Stands.arrays_or_nulls {v : Json} (h : Stands values v)
    (hkind : ∀ v ∈ values, v.isArray = true ∨ v.isNull = true) {ys : List Json}
    (hys : .arr ys ∈ values) (hne : ys ≠ []) : ∃ xs, v = .arr xs ∧
      (xs ≠ [] ↔ (∀ v ∈ values, v.isArray = true) ∨ firstArray? values ≠ some []) := by
  by_cases ha : ∀ v ∈ values, v.isArray = true
  · obtain ⟨xs, rfl, hxs⟩ := h.arrays ha
    have hnonempty := ne_nil_of_distinctBy_eq hxs (flatten_items_ne_nil hys hne)
    exact ⟨xs, rfl, iff_of_true hnonempty (.inl ha)⟩
  · have hr : ¬ ∀ v ∈ values, v.isRecord = true := fun hr => Bool.noConfusion (hr _ hys)
    obtain ⟨xs, hxs⟩ := exists_firstArray? hys
    refine ⟨xs, (h.other ha hr).trans (firstKnown_arrays hkind hxs), ?_⟩
    rw [hxs]
    simp [ha]

end

/-- Where the samples have only arrays and nulls, and an array that is not empty, the merged record
has an array.  It is not empty exactly if there is no null or if the first array is not empty. -/
theorem at?_merged_arrays {rs : List Record} {p : Path} {k : String} (hp : OnlyRecords p rs)
    (hkind : ∀ v ∈ valuesAlong (p ++ [k]) rs, v.isArray = true ∨ v.isNull = true)
    (hsome : ∃ ys, .arr ys ∈ valuesAlong (p ++ [k]) rs ∧ ys ≠ []) :
    ∃ xs, (mergeSamples (rs.map Json.obj)).record.at? (p ++ [k]) = some (.arr xs) ∧
      (xs ≠ [] ↔ (∀ v ∈ valuesAlong (p ++ [k]) rs, v.isArray = true) ∨
        firstArray? (valuesAlong (p ++ [k]) rs) ≠ some []) := by
  rw [valuesAlong_concat] at hkind hsome ⊢
  obtain ⟨ys, hys, hne⟩ := hsome
  have hvalues : valuesAt k (recordsAlong p rs) ≠ [] := List.ne_nil_of_mem hys
  have hway : valuesAlong p rs ≠ [] := by
    intro e
    rw [recordsAlong, e] at hvalues
    exact hvalues rfl
  obtain ⟨v, hv, hs⟩ := lookup_mergedRecord hvalues
  obtain ⟨xs, rfl, hiff⟩ := hs.arrays_or_nulls hkind hys hne
  refine ⟨xs, ?_, hiff⟩
  rw [record_mergeSamples_eq, Json.at?_append, at?_mergedRecord hp hway]
  exact hv

/-- behind a null a first array that is not empty wins over an empty one -/
theorem at?_merged_arrays_first :
    let rs : List Record := [[("a", .null)], [("a", .arr [.int 1])], [("a", .arr [])]]
    OnlyRecords [] rs ∧
      (∀ v ∈ valuesAlong ["a"] rs, v.isArray = true ∨ v.isNull = true) ∧
      (∃ ys, .arr ys ∈ valuesAlong ["a"] rs ∧ ys ≠ []) ∧
      ∃ xs, (mergeSamples (rs.map Json.obj)).record.at? ["a"] = some (.arr xs) ∧ xs ≠ [] := by
  intro rs
  have hp : OnlyRecords [] rs := onlyRecords_nil rs
  have hkind : ∀ v ∈ valuesAlong ["a"] rs, v.isArray = true ∨ v.isNull = true := by decide
  have hsome : ∃ ys, .arr ys ∈ valuesAlong ["a"] rs ∧ ys ≠ [] :=
    ⟨[.int 1], .tail _ (.head _), by simp⟩
  obtain ⟨xs, hxs, hiff⟩ := at?_merged_arrays (p := []) (k := "a") hp hkind hsome
  have hfirst : firstArray? (valuesAlong ["a"] rs) ≠ some [] :=
    fun e => List.cons_ne_nil _ _ (Option.some.inj e)
  exact ⟨hp, hkind, hsome, xs, hxs, hiff.mpr (.inr hfirst)⟩

/-- an empty array hides one that is not empty, since a third sample has null -/
theorem merged_array_hidden :
    let rs : List Record := [[("a", .arr [])], [("a", .null)], [("a", .arr [.int 1])]]
    2 ≤ rs.length ∧ (∀ v ∈ valuesAlong ["a"] rs, v.isArray = true ∨ v.isNull = true) ∧
      (∃ ys, .arr ys ∈ valuesAlong ["a"] rs ∧ ys ≠ []) ∧
      ¬ ∃ xs, (mergeSamples (rs.map Json.obj)).record.at? ["a"] = some (.arr xs) ∧ xs ≠ [] := by
  intro rs
  refine ⟨by decide, by decide, ⟨[.int 1], .tail _ (.tail _ (.head _)), by simp⟩, ?_⟩
  rintro ⟨xs, hxs, hne⟩
  have hmerged : (mergeSamples (rs.map Json.obj)).record.at? ["a"] = some (.arr []) := rfl
  rw [hmerged] at hxs
  exact hne (Json.arr.inj (Option.some.inj hxs)).symm

end SampleTypes
