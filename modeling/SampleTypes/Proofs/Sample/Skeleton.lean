import SampleTypes.Proofs.Inference.Skeleton
import SampleTypes.Proofs.Sample.Merge

/-!
# Samples with the same skeleton

Where samples are merged, their leaves decide which items of arrays are repeated, and so which
items the merged arrays keep.  An inference over the merged record does not notice.

* `valuesAt_blank`, `levels_blank`, `nullableBelow_blank`   what is read off the skeletons;
* `Same.mergeRecords_blank`, `Same.mergeSamples`            merged records are not told apart.
-/

namespace SampleTypes

open Json (blank skeleton)

section
variable (k : String) (rs : List Record)

theorem valuesAt_blank : valuesAt k (rs.map blank) = (valuesAt k rs).map skeleton := by
  rw [valuesAt, valuesAt, List.filterMap_map, List.map_filterMap]
  exact List.filterMap_congr fun r _ => Json.lookup_blank k r

theorem keysOf_blank : keysOf (rs.map blank) = keysOf rs := by
  rw [keysOf, keysOf, List.flatMap_map]
  congr 1
  exact List.flatMap_congr fun r _ => Json.names_blank r

theorem recordsAt_blank : recordsAt k (rs.map blank) = (recordsAt k rs).map blank := by
  rw [recordsAt, recordsAt, valuesAt_blank, List.filterMap_map, List.map_filterMap]
  exact List.filterMap_congr fun v _ => Json.record?_skeleton v

theorem arraysAt_blank : arraysAt k (rs.map blank) = (arraysAt k rs).map (·.map skeleton) := by
  rw [arraysAt, arraysAt, valuesAt_blank, List.filterMap_map, List.map_filterMap]
  exact List.filterMap_congr fun v _ => Json.items?_skeleton v

theorem all_isArray_blank :
    (valuesAt k (rs.map blank)).all Json.isArray = (valuesAt k rs).all Json.isArray := by
  rw [valuesAt_blank, List.all_map]
  congr 1
  exact funext Json.isArray_skeleton

theorem all_isRecord_blank :
    (valuesAt k (rs.map blank)).all Json.isRecord = (valuesAt k rs).all Json.isRecord := by
  rw [valuesAt_blank, List.all_map]
  congr 1
  exact funext Json.isRecord_skeleton

end

theorem firstKnown_skeleton (vs : List Json) :
    firstKnown (vs.map skeleton) = (firstKnown vs).skeleton := by
  have hnull : ((fun v : Json => !v.isNull) ∘ skeleton) = fun v => !v.isNull := by
    funext v
    show (!v.skeleton.isNull) = _
    rw [Json.isNull_skeleton]
  rw [firstKnown, firstKnown, List.find?_map, hnull]
  cases vs.find? (fun v => !v.isNull) with
  | some v => rfl
  | none => cases vs with
    | nil => rfl
    | cons v vs => rfl

theorem isMixed_skeleton (vs : List Json) : isMixed (vs.map skeleton) = isMixed vs := by
  rw [isMixed, isMixed, List.any_map, List.any_map]
  congr 2
  · exact funext Json.isNull_skeleton
  · funext v
    show (!v.skeleton.isNull) = _
    rw [Json.isNull_skeleton]

/-! ## levels and null -/

theorem recordDepth_skeleton (v : Json) : recordDepth v.skeleton = recordDepth v := by
  induction v using Json.induction with
  | arr xs => rw [Json.skeleton_arr]; rfl
  | obj fs ih =>
    rw [Json.skeleton_obj, recordDepth, recordDepth]
    congr 1
    induction fs with
    | nil => rfl
    | cons p fs ihs =>
      obtain ⟨k, v⟩ := p
      rw [List.map_cons, fieldsDepth, fieldsDepth, ih (k, v) (by simp),
        ihs fun q hq => ih q (List.mem_cons_of_mem _ hq)]
  | _ => rfl

theorem fieldsDepth_blank (r : Record) : fieldsDepth (blank r) = fieldsDepth r := by
  have h := recordDepth_skeleton (.obj r)
  rw [Json.skeleton_obj, recordDepth, recordDepth] at h
  exact Nat.succ.inj h

theorem levels_blank (rs : List Record) : levels (rs.map blank) = levels rs := by
  induction rs with
  | nil => rfl
  | cons r rs ih =>
    show max (fieldsDepth (blank r) + 1) (levels (rs.map blank)) = _
    rw [fieldsDepth_blank, ih]
    rfl

theorem nullableBelow_blank (n : Nat) (path : Path) (rs : List Record) :
    nullableBelow n path (rs.map blank) = nullableBelow n path rs := by
  induction n generalizing path rs with
  | zero => rfl
  | succ n ih =>
    rw [nullableBelow_succ, nullableBelow_succ, keysOf_blank]
    refine List.flatMap_congr fun k _ => ?_
    rw [nullableAt, nullableAt, all_isRecord_blank, recordsAt_blank, ih, valuesAt_blank,
      isMixed_skeleton]

theorem samplesOf_skeleton (vs : List Json) :
    samplesOf (vs.map skeleton) = (samplesOf vs).map blank := by
  rw [samplesOf, samplesOf, List.filterMap_map, List.map_filterMap]
  exact List.filterMap_congr fun v _ => Json.record?_skeleton v

theorem nullablePaths_skeleton (vs : List Json) :
    nullablePaths (vs.map skeleton) = nullablePaths vs := by
  show nullableBelow (levels (samplesOf (vs.map skeleton))) [] (samplesOf (vs.map skeleton)) = _
  rw [samplesOf_skeleton, levels_blank, nullableBelow_blank]
  rfl

/-! ## merged records -/

namespace Infer

/-- the union of arrays is not told from that of their skeletons, though other items may be kept -/
theorem Same.arrays {s : Settings} {path : Path} (hq : QuietItems s path) (xs : List Json) :
    Same s path (.arr (distinctBy Json.canonical (xs.map Json.skeleton)))
      (.arr (distinctBy Json.canonical xs)) := by
  have hmap : Same s path (.arr (xs.map Json.skeleton)) (.arr xs) := by
    have h := Same.skeleton s path (.arr xs)
    rwa [Json.skeleton_arr] at h
  exact ((Same.distinct hq _).trans hmap).trans (Same.distinct hq xs).symm

theorem Same.blank (s : Settings) (path : Path) (r : Record) :
    Same s path (.obj (Json.blank r)) (.obj r) := by
  have h := Same.skeleton s path (.obj r)
  rwa [Json.skeleton_obj] at h

theorem Same.mergeRecords_blank {s : Settings} {n : Nat} {path : Path} {rs : List Record}
    (h : Nulls s n path rs) :
    Same s path (.obj (mergeRecords n path (rs.map Json.blank)).1)
      (.obj (mergeRecords n path rs).1) := by
  induction n generalizing path rs with
  | zero =>
    by_cases hlen : rs.length = 1
    · obtain ⟨r, rfl⟩ := List.length_eq_one_iff.mp hlen
      rw [List.map_singleton, mergeRecords_single, mergeRecords_single]
      exact Same.blank s path r
    · rw [mergeRecords_zero hlen, mergeRecords_zero (by rwa [List.length_map])]
      exact Same.refl _
  | succ n ih =>
    by_cases hlen : rs.length = 1
    · obtain ⟨r, rfl⟩ := List.length_eq_one_iff.mp hlen
      rw [List.map_singleton, mergeRecords_single, mergeRecords_single]
      exact Same.blank s path r
    rw [mergeRecords_succ hlen, mergeRecords_succ (by rwa [List.length_map]), keysOf_blank]
    refine Same.fields fun k hk => ?_
    have harr := all_isArray_blank k rs
    have hrec := all_isRecord_blank k rs
    cases ha : (valuesAt k rs).all Json.isArray with
    | true =>
      rw [mergedAt_arrays (harr.trans ha), mergedAt_arrays ha, arraysAt_blank, ← List.map_flatten]
      exact Same.arrays (h.quietItems hk ha) _
    | false =>
      cases hr : (valuesAt k rs).all Json.isRecord with
      | true =>
        rw [mergedAt_records (harr.trans ha) (hrec.trans hr), mergedAt_records ha hr,
          recordsAt_blank]
        exact ih (h.records k)
      | false =>
        rw [mergedAt_other (harr.trans ha) (hrec.trans hr), mergedAt_other ha hr, valuesAt_blank,
          firstKnown_skeleton]
        exact Same.skeleton s _ _

/-- the merged samples are not told from the merged skeletons -/
theorem Same.mergeSamples (a : Affixes) (vs : List Json) :
    Same ⟨a, nullablePaths vs⟩ [] (SampleTypes.mergeSamples (vs.map Json.skeleton)).record
      (SampleTypes.mergeSamples vs).record := by
  by_cases hlen : vs.length = 1
  · obtain ⟨v, rfl⟩ := List.length_eq_one_iff.mp hlen
    exact Same.skeleton _ _ v
  · have hlen' : (vs.map Json.skeleton).length ≠ 1 := by rwa [List.length_map]
    rw [record_mergeSamples_of_length hlen, record_mergeSamples_of_length hlen',
      samplesOf_skeleton, levels_blank]
    exact Same.mergeRecords_blank (nulls_nullablePaths a vs)

end Infer

end SampleTypes
