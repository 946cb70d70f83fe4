import SampleTypes.Proofs.Sample.Merge

/-!
# Levels enough

Merging stops after a number of levels that is given to it.  Once that number is as large as the
records are deep, it does not count, and neither does the path, which only value sets are told by.

* `levels_le_iff`, `levels_recordsAt`   the levels of records, and of those in one field;
* `mergeRecords_eq`                     levels enough give one and the same merged record;
* `mergedRecord rs`                     that record;
* `mergedValue vs`                      the values of one field merged;
* `mergedRecord_of_length`              the merged record is made of merged values;
* `record_mergeSamples_eq`              it is what samples are merged into.
-/

namespace SampleTypes

/-! ## how deep records are -/

theorem recordDepth_le_of_mem {k : String} {v : Json} {fs : Record} (h : (k, v) ∈ fs) :
    recordDepth v ≤ fieldsDepth fs := by
  induction fs with
  | nil => simp at h
  | cons p fs ih =>
    obtain ⟨j, w⟩ := p
    rw [fieldsDepth]
    rcases List.mem_cons.mp h with e | hm
    · obtain ⟨rfl, rfl⟩ := Prod.mk.inj e
      exact Nat.le_max_left _ _
    · exact Nat.le_trans (ih hm) (Nat.le_max_right _ _)

theorem levels_le_iff {rs : List Record} {n : Nat} :
    levels rs ≤ n ↔ ∀ r ∈ rs, fieldsDepth r < n := by
  induction rs with
  | nil => simp [levels]
  | cons r rs ih =>
    show max (fieldsDepth r + 1) (levels rs) ≤ n ↔ _
    rw [Nat.max_le, ih, List.forall_mem_cons]
    rfl

theorem levels_recordsAt {rs : List Record} {n : Nat} (h : levels rs ≤ n + 1) (k : String) :
    levels (recordsAt k rs) ≤ n := by
  refine levels_le_iff.mpr fun r hr => ?_
  obtain ⟨t, ht, hl⟩ := exists_of_mem_valuesAt (mem_recordsAt.mp hr)
  have h1 := levels_le_iff.mp h t ht
  have h2 := recordDepth_le_of_mem (Fields.mem_of_lookup hl)
  rw [recordDepth] at h2
  omega

theorem levels_append (rs ss : List Record) : levels (rs ++ ss) = max (levels rs) (levels ss) := by
  refine Nat.le_antisymm (levels_le_iff.mpr fun r hr => ?_) (Nat.max_le.mpr ⟨?_, ?_⟩)
  · rcases List.mem_append.mp hr with hr | hr
    · exact Nat.lt_of_lt_of_le (levels_le_iff.mp (Nat.le_refl _) r hr) (Nat.le_max_left _ _)
    · exact Nat.lt_of_lt_of_le (levels_le_iff.mp (Nat.le_refl _) r hr) (Nat.le_max_right _ _)
  · exact levels_le_iff.mpr fun r hr =>
      levels_le_iff.mp (Nat.le_refl _) r (List.mem_append_left _ hr)
  · exact levels_le_iff.mpr fun r hr =>
      levels_le_iff.mp (Nat.le_refl _) r (List.mem_append_right _ hr)

theorem eq_nil_of_levels_eq_zero {rs : List Record} (h : levels rs ≤ 0) : rs = [] := by
  cases rs with
  | nil => rfl
  | cons r rs =>
    have hr := levels_le_iff.mp h r (by simp)
    omega

/-! ## the merged record -/

theorem mergeRecords_nil (n : Nat) (path : Path) : (mergeRecords n path []).1 = [] := by
  cases n with
  | zero => exact mergeRecords_zero (by simp)
  | succ n =>
    rw [mergeRecords_succ (by simp), keysOf_nil]
    rfl

theorem mergedAt_congr {n m : Nat} {path path' : Path} {rs : List Record} {k : String}
    (h : (mergeRecords n (path ++ [k]) (recordsAt k rs)).1 =
      (mergeRecords m (path' ++ [k]) (recordsAt k rs)).1) :
    mergedAt n path rs k = mergedAt m path' rs k := by
  cases ha : (valuesAt k rs).all Json.isArray with
  | true => rw [mergedAt_arrays ha, mergedAt_arrays ha]
  | false =>
    cases hr : (valuesAt k rs).all Json.isRecord with
    | true => rw [mergedAt_records ha hr, mergedAt_records ha hr, h]
    | false => rw [mergedAt_other ha hr, mergedAt_other ha hr]

/-- levels enough give one and the same merged record, at every path -/
theorem mergeRecords_eq {n m : Nat} {rs : List Record} (hn : levels rs ≤ n) (hm : levels rs ≤ m)
    (path path' : Path) : (mergeRecords n path rs).1 = (mergeRecords m path' rs).1 := by
  induction n generalizing m rs path path' with
  | zero =>
    obtain rfl := eq_nil_of_levels_eq_zero hn
    rw [mergeRecords_nil, mergeRecords_nil]
  | succ n ih =>
    by_cases hlen : rs.length = 1
    · obtain ⟨r, rfl⟩ := List.length_eq_one_iff.mp hlen
      rw [mergeRecords_single, mergeRecords_single]
    cases m with
    | zero =>
      obtain rfl := eq_nil_of_levels_eq_zero hm
      rw [mergeRecords_nil, mergeRecords_nil]
    | succ m =>
      rw [mergeRecords_succ hlen, mergeRecords_succ hlen]
      refine List.map_congr_left fun k _ => ?_
      have hk := ih (levels_recordsAt hn k) (levels_recordsAt hm k) (path ++ [k]) (path' ++ [k])
      rw [mergedAt_congr hk]

/-- some records merged to as many levels as they have -/
def mergedRecord (rs : List Record) : Record := (mergeRecords (levels rs) [] rs).1

/-- the values of one field merged -/
def mergedValue (values : List Json) : Json :=
  if values.all Json.isArray then
    .arr (distinctBy Json.canonical (values.filterMap Json.items?).flatten)
  else if values.all Json.isRecord then .obj (mergedRecord (values.filterMap Json.record?))
  else firstKnown values

theorem mergedRecord_single (r : Record) : mergedRecord [r] = r := mergeRecords_single _ _ r

theorem mergedAt_eq {n : Nat} {rs : List Record} (hn : levels rs ≤ n + 1) (path : Path)
    (k : String) : mergedAt n path rs k = mergedValue (valuesAt k rs) := by
  have hk : (mergeRecords n (path ++ [k]) (recordsAt k rs)).1 = mergedRecord (recordsAt k rs) :=
    mergeRecords_eq (levels_recordsAt hn k) (Nat.le_refl _) _ _
  rw [mergedValue]
  cases ha : (valuesAt k rs).all Json.isArray with
  | true =>
    rw [mergedAt_arrays ha]
    rfl
  | false =>
    cases hr : (valuesAt k rs).all Json.isRecord with
    | true =>
      rw [mergedAt_records ha hr, hk]
      rfl
    | false =>
      rw [mergedAt_other ha hr]
      rfl

/-- records, unless there is a single one, are merged field by field -/
theorem mergedRecord_of_length {rs : List Record} (h : rs.length ≠ 1) :
    mergedRecord rs = (keysOf rs).map fun k => (k, mergedValue (valuesAt k rs)) := by
  have hmore : levels rs ≤ levels rs + 1 := Nat.le_succ _
  have hfields := mergeRecords_eq (Nat.le_refl _) hmore [] []
  rw [mergedRecord, hfields, mergeRecords_succ h]
  refine List.map_congr_left fun k _ => ?_
  rw [mergedAt_eq hmore]

theorem names_mergedRecord_of_length {rs : List Record} (h : rs.length ≠ 1) :
    Fields.names (mergedRecord rs) = keysOf rs := by
  rw [mergedRecord_of_length h, Fields.names, List.map_map]
  exact List.map_id _

/-- what samples that are records are merged into -/
theorem record_mergeSamples_eq (rs : List Record) :
    (mergeSamples (rs.map Json.obj)).record = .obj (mergedRecord rs) := record_mergeSamples rs

section
variable {values : List Json}

theorem mergedValue_arrays (h : values.all Json.isArray = true) :
    mergedValue values = .arr (distinctBy Json.canonical (values.filterMap Json.items?).flatten) :=
  if_pos h

theorem mergedValue_records (hne : values ≠ []) (h : values.all Json.isRecord = true) :
    mergedValue values = .obj (mergedRecord (values.filterMap Json.record?)) := by
  have ha : ¬ values.all Json.isArray = true := by
    intro ha
    rw [Infer.all_isRecord_of_arrays hne ha] at h
    exact Bool.noConfusion h
  rw [mergedValue, if_neg ha, if_pos h]

theorem mergedValue_other (ha : ¬ values.all Json.isArray = true)
    (h : ¬ values.all Json.isRecord = true) : mergedValue values = firstKnown values := by
  rw [mergedValue, if_neg ha, if_neg h]

theorem not_all_arrays (hne : values ≠ []) (hl : ∀ v ∈ values, v.isLeaf = true) :
    ¬ ∀ v ∈ values, v.isArray = true := by
  intro ha
  obtain ⟨v, hv⟩ := List.exists_mem_of_ne_nil _ hne
  have h1 := hl v hv
  have h2 := ha v hv
  cases v with
  | arr xs => exact Bool.noConfusion h1
  | _ => simp [Json.isArray] at h2

theorem not_all_records (hne : values ≠ []) (hl : ∀ v ∈ values, v.isLeaf = true) :
    ¬ ∀ v ∈ values, v.isRecord = true := by
  intro hr
  obtain ⟨v, hv⟩ := List.exists_mem_of_ne_nil _ hne
  have h1 := hl v hv
  have h2 := hr v hv
  cases v with
  | obj fs => exact Bool.noConfusion h1
  | _ => simp [Json.isRecord] at h2

theorem mergedValue_leaves (hne : values ≠ []) (hl : ∀ v ∈ values, v.isLeaf = true) :
    mergedValue values = firstKnown values := by
  refine mergedValue_other ?_ ?_
  · rw [List.all_eq_true]
    exact not_all_arrays hne hl
  · rw [List.all_eq_true]
    exact not_all_records hne hl

end

end SampleTypes
