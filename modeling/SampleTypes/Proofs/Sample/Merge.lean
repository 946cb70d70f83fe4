import SampleTypes.Proofs.Fields
import SampleTypes.Proofs.Inference.Repeats
import SampleTypes.Sample.Merge

/-!
# The merged record field by field

* `firstKnown_mem`, `isNull_firstKnown`   the first value known is one of the values, and null only
                          if all are;
* `mergedAt n p rs k`     the merged value of the field `k`, and what it is by the kind of its
                          values: `mergedAt_arrays`, `mergedAt_records`, `mergedAt_other`;
* `nullableAt n p rs k`   the paths from the field `k` on at which null was seen;
* `Nulls s n p rs`        below the path `p` null was seen in the records `rs` only;
* `Nulls.records`         so it is for the records in one field;
* `Nulls.quiet`           below a field that holds anything but records null was not seen.
-/

namespace SampleTypes

/-! ## the values of a field -/

theorem exists_of_mem_valuesAt {k : String} {rs : List Record} {v : Json}
    (h : v ∈ valuesAt k rs) : ∃ r ∈ rs, r.lookup k = some v := List.mem_filterMap.mp h

theorem mem_valuesAt {k : String} {rs : List Record} {r : Record} {v : Json} (hr : r ∈ rs)
    (h : r.lookup k = some v) : v ∈ valuesAt k rs := List.mem_filterMap.mpr ⟨r, hr, h⟩

theorem valuesAt_ne_nil {k : String} {rs : List Record} (h : k ∈ keysOf rs) :
    valuesAt k rs ≠ [] := by
  obtain ⟨r, hr, hk⟩ := mem_keysOf.mp h
  obtain ⟨v, hv⟩ := Fields.exists_lookup_of_mem_names hk
  exact List.ne_nil_of_mem (mem_valuesAt hr hv)

/-- the records among the values of a field -/
def recordsAt (k : String) (rs : List Record) : List Record :=
  (valuesAt k rs).filterMap Json.record?

/-- the arrays among the values of a field -/
def arraysAt (k : String) (rs : List Record) : List (List Json) :=
  (valuesAt k rs).filterMap Json.items?

theorem mem_recordsAt {k : String} {rs : List Record} {r : Record} :
    r ∈ recordsAt k rs ↔ .obj r ∈ valuesAt k rs := by
  rw [recordsAt, List.mem_filterMap]
  constructor
  · rintro ⟨v, hv, h⟩
    cases v with
    | obj fs => exact Option.some.inj h ▸ hv
    | _ => simp [Json.record?] at h
  · exact fun h => ⟨_, h, rfl⟩

theorem keysOf_single {r : Record} (h : (Fields.names r).Nodup) : keysOf [r] = Fields.names r := by
  rw [keysOf, List.flatMap_singleton]
  exact distinctBy_of_pairwise h

/-! ## the first value known -/

theorem firstKnown_mem {values : List Json} (h : values ≠ []) : firstKnown values ∈ values := by
  rw [firstKnown]
  cases hf : values.find? (!·.isNull) with
  | some v => exact List.mem_of_find?_eq_some hf
  | none =>
    obtain ⟨v, values, rfl⟩ := List.exists_cons_of_ne_nil h
    exact List.mem_cons_self

theorem isNull_firstKnown {values : List Json} (h : ∃ v ∈ values, v.isNull = false) :
    (firstKnown values).isNull = false := by
  obtain ⟨v, hv, hn⟩ := h
  rw [firstKnown]
  cases hf : values.find? (!·.isNull) with
  | some w =>
    have hw := List.find?_some hf
    simpa using hw
  | none =>
    have hnot := List.find?_eq_none.mp hf v hv
    rw [hn] at hnot
    exact absurd rfl hnot

theorem firstKnown_single (v : Json) : firstKnown [v] = v := by
  rw [firstKnown, List.find?_singleton]
  cases v.isNull <;> rfl

/-- the first value known, or null -/
theorem firstKnown_eq (vs : List Json) : firstKnown vs = (vs.find? (!·.isNull)).getD .null := by
  rw [firstKnown]
  cases hf : vs.find? (!·.isNull) with
  | some v => rfl
  | none =>
    cases vs with
    | nil => rfl
    | cons v vs =>
      have hv := List.find?_eq_none.mp hf v (by simp)
      cases v with
      | null => rfl
      | _ => simp [Json.isNull] at hv

/-! ## merged fields -/

/-- the merged value of a field -/
def mergedAt (n : Nat) (path : Path) (rs : List Record) (k : String) : Json :=
  (mergeValues (mergeRecords n (path ++ [k])) (path ++ [k]) (valuesAt k rs)).1

section
variable {n : Nat} {path : Path} {rs : List Record} {k : String}

theorem mergeRecords_single (n : Nat) (path : Path) (r : Record) :
    (mergeRecords n path [r]).1 = r := by
  rw [mergeRecords]

theorem mergeRecords_zero (h : rs.length ≠ 1) : (mergeRecords 0 path rs).1 = [] := by
  rw [mergeRecords]
  rintro r rfl
  exact h rfl

/-- records, unless there is a single one, are merged field by field -/
theorem mergeRecords_succ (h : rs.length ≠ 1) :
    (mergeRecords (n + 1) path rs).1 = (keysOf rs).map fun k => (k, mergedAt n path rs k) := by
  rw [mergeRecords]
  · rw [List.map_map]
    rfl
  · rintro r rfl
    exact h rfl

theorem mergedAt_arrays (h : (valuesAt k rs).all Json.isArray = true) :
    mergedAt n path rs k = .arr (distinctBy Json.canonical (arraysAt k rs).flatten) := by
  rw [mergedAt, mergeValues, if_pos h, unionItems_eq]
  rfl

theorem mergedAt_records (ha : (valuesAt k rs).all Json.isArray = false)
    (h : (valuesAt k rs).all Json.isRecord = true) :
    mergedAt n path rs k = .obj (mergeRecords n (path ++ [k]) (recordsAt k rs)).1 := by
  rw [mergedAt, mergeValues, if_neg (by simp [ha]), if_pos h]
  rfl

theorem mergedAt_other (ha : (valuesAt k rs).all Json.isArray = false)
    (h : (valuesAt k rs).all Json.isRecord = false) :
    mergedAt n path rs k = firstKnown (valuesAt k rs) := by
  rw [mergedAt, mergeValues, if_neg (by simp [ha]), if_neg (by simp [h])]

/-- the records among the samples -/
def samplesOf (vs : List Json) : List Record := vs.filterMap Json.record?

theorem samplesOf_map_obj (rs : List Record) : samplesOf (rs.map Json.obj) = rs := by
  rw [samplesOf, List.filterMap_map]
  exact List.filterMap_some

theorem record_mergeSamples_of_length {vs : List Json} (h : vs.length ≠ 1) :
    (mergeSamples vs).record =
      .obj (mergeRecords (levels (samplesOf vs)) [] (samplesOf vs)).1 := by
  match vs, h with
  | [], _ => rfl
  | v :: w :: vs, _ => rfl

/-- the samples merged, when all of them are records -/
theorem record_mergeSamples (rs : List Record) :
    (mergeSamples (rs.map Json.obj)).record = .obj (mergeRecords (levels rs) [] rs).1 := by
  match rs with
  | [] => rfl
  | [r] => rw [mergeRecords_single]; rfl
  | r :: s :: rs =>
    rw [record_mergeSamples_of_length (by simp), samplesOf_map_obj]

end

/-! ## where null was seen -/

theorem isMixed_single (v : Json) : isMixed [v] = false := by
  simp [isMixed]

/-- the paths from a field on at which some records hold null and others do not -/
def nullableAt (n : Nat) (path : Path) (rs : List Record) (k : String) : List Path :=
  if isMixed (valuesAt k rs) then [path ++ [k]]
  else if (valuesAt k rs).all Json.isRecord then nullableBelow n (path ++ [k]) (recordsAt k rs)
  else []

theorem nullableBelow_short (n : Nat) (path : Path) {rs : List Record} (h : rs.length < 2) :
    nullableBelow n path rs = [] := by
  cases n with
  | zero => rfl
  | succ n => rw [nullableBelow, if_pos h]

theorem nullableAt_single (n : Nat) (path : Path) (r : Record) (k : String) :
    nullableAt n path [r] k = [] := by
  have hlen : (valuesAt k [r]).length < 2 := by
    have := List.length_filterMap_le (fun r : Record => r.lookup k) [r]
    exact Nat.lt_succ_of_le this
  have hmixed : isMixed (valuesAt k [r]) = false := by
    match valuesAt k [r], hlen with
    | [], _ => rfl
    | [v], _ => exact isMixed_single v
  rw [nullableAt, hmixed, if_neg (by simp)]
  split
  · refine nullableBelow_short n _ (Nat.lt_of_le_of_lt ?_ hlen)
    exact List.length_filterMap_le _ _
  · rfl

/-- the paths below records are those from their fields on -/
theorem nullableBelow_succ (n : Nat) (path : Path) (rs : List Record) :
    nullableBelow (n + 1) path rs = (keysOf rs).flatMap (nullableAt n path rs) := by
  match rs with
  | [] => rw [nullableBelow_short _ _ (by simp)]; rfl
  | [r] =>
    rw [nullableBelow_short _ _ (by simp)]
    exact (List.flatMap_eq_nil_iff.mpr fun k _ => nullableAt_single n path r k).symm
  | r :: s :: rs =>
    rw [nullableBelow, if_neg (by simp)]
    rfl

/-- such a path leads through the field -/
theorem prefix_of_mem_nullableBelow {n : Nat} {path q : Path} {rs : List Record}
    (h : q ∈ nullableBelow n path rs) : ∃ k, path ++ [k] <+: q := by
  induction n generalizing path rs with
  | zero => simp [nullableBelow] at h
  | succ n ih =>
    rw [nullableBelow_succ, List.mem_flatMap] at h
    obtain ⟨k, _, h⟩ := h
    refine ⟨k, ?_⟩
    rw [nullableAt] at h
    split at h
    · exact List.mem_singleton.mp h ▸ List.prefix_refl _
    · split at h
      · obtain ⟨j, hj⟩ := ih h
        exact (List.prefix_append _ [j]).trans hj
      · simp at h

theorem ne_of_below_field {path q : Path} {k : String} (h : path ++ [k] <+: q) : path ≠ q := by
  rintro rfl
  have hlen := h.length_le
  rw [List.length_append, List.length_singleton] at hlen
  omega

theorem eq_of_fields_prefix {path q : Path} {j k : String} (hj : path ++ [j] <+: q)
    (hk : path ++ [k] <+: q) : j = k := by
  have h := List.prefix_of_prefix_length_le hj hk (by simp)
  simpa using h.eq_of_length (by simp)

namespace Infer

/-- below the path null was seen in these records only -/
def Nulls (s : Settings) (n : Nat) (path : Path) (rs : List Record) : Prop :=
  ∀ q ∈ s.nullablePaths, path <+: q → path ≠ q → q ∈ nullableBelow n path rs

/-- where null was seen below a field that holds only records -/
theorem Nulls.step {s : Settings} {n : Nat} {path q : Path} {rs : List Record} {k : String}
    (h : Nulls s (n + 1) path rs) (hq : q ∈ s.nullablePaths) (hp : path ++ [k] <+: q)
    (hne : path ++ [k] ≠ q) : (valuesAt k rs).all Json.isRecord = true ∧
      q ∈ nullableBelow n (path ++ [k]) (recordsAt k rs) := by
  have hpath : path <+: q := (List.prefix_append path [k]).trans hp
  have hm := h q hq hpath (ne_of_below_field hp)
  rw [nullableBelow_succ, List.mem_flatMap] at hm
  obtain ⟨j, _, hm⟩ := hm
  rw [nullableAt] at hm
  split at hm
  · obtain rfl := List.mem_singleton.mp hm
    obtain rfl := eq_of_fields_prefix hp (List.prefix_refl (path ++ [j]))
    exact absurd rfl hne
  · split at hm
    · rename_i hall
      obtain ⟨i, hi⟩ := prefix_of_mem_nullableBelow hm
      obtain rfl := eq_of_fields_prefix hp ((List.prefix_append _ [i]).trans hi)
      exact ⟨hall, hm⟩
    · simp at hm

theorem Nulls.records {s : Settings} {n : Nat} {path : Path} {rs : List Record}
    (h : Nulls s (n + 1) path rs) (k : String) : Nulls s n (path ++ [k]) (recordsAt k rs) :=
  fun _ hq hp hne => (h.step hq hp hne).2

/-- below a field that holds anything but records null was not seen -/
theorem Nulls.quiet {s : Settings} {n : Nat} {path : Path} {rs : List Record} {k : String}
    (h : Nulls s (n + 1) path rs) (hk : (valuesAt k rs).all Json.isRecord = false) :
    QuietItems s (path ++ [k]) := by
  intro i q hq hp
  have hp' : path ++ [k] <+: q := (List.prefix_append _ _).trans hp
  have := (h.step hq hp' (ne_of_below_field hp)).1
  rw [hk] at this
  exact Bool.noConfusion this

theorem all_isRecord_of_arrays {vs : List Json} (hne : vs ≠ [])
    (h : vs.all Json.isArray = true) : vs.all Json.isRecord = false := by
  obtain ⟨v, vs, rfl⟩ := List.exists_cons_of_ne_nil hne
  rw [List.all_cons, Bool.and_eq_true] at h
  cases v with
  | arr xs => rfl
  | _ => simp [Json.isArray] at h

/-- below a field that holds only arrays null was not seen -/
theorem Nulls.quietItems {s : Settings} {n : Nat} {path : Path} {rs : List Record} {k : String}
    (h : Nulls s (n + 1) path rs) (hk : k ∈ keysOf rs)
    (ha : (valuesAt k rs).all Json.isArray = true) : QuietItems s (path ++ [k]) :=
  h.quiet (all_isRecord_of_arrays (valuesAt_ne_nil hk) ha)

/-- records with the same keys whose values are not told apart -/
theorem Same.fields {s : Settings} {path : Path} {ks : List String} {f g : String → Json}
    (h : ∀ k ∈ ks, Same s (path ++ [k]) (f k) (g k)) :
    Same s path (.obj (ks.map fun k => (k, f k))) (.obj (ks.map fun k => (k, g k))) := by
  refine Same.record (List.forall₂_map_left_iff.mpr (List.forall₂_map_right_iff.mpr ?_))
  exact List.forall₂_same.mpr fun k hk => ⟨rfl, h k hk⟩

theorem nulls_nullablePaths (a : Affixes) (vs : List Json) :
    Nulls ⟨a, nullablePaths vs⟩ (levels (samplesOf vs)) [] (samplesOf vs) :=
  fun _ hq _ _ => hq

end Infer

end SampleTypes
