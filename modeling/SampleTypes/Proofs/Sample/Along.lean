import SampleTypes.Proofs.Sample.Levels

/-!
# Values along paths of keys

A path of keys leads from a record through records to a value.  Where all samples that have a
value on the way have records, the merged record is followed in the same way.

* `v.at? p`                the value that the path `p` leads to from `v`;
* `valuesAlong p rs`       the values that the samples have at a path;
* `recordsAlong p rs`      the records among them;
* `OnlyRecords p rs`       the samples have nothing but records on the way and at its end;
* `Stands vs v`            `v` stands for the values of a field: it is merged from them, or the
                           only one;
* `lookup_mergedRecord`    what a merged record has in its fields stands for their values;
* `at?_mergedRecord`       where a path leads in the merged record.
-/

namespace SampleTypes

/-- the value that a path of keys leads to through records -/
def Json.at? : Path → Json → Option Json
  | [], v => some v
  | k :: p, .obj fs => (fs.lookup k).bind (Json.at? p)
  | _ :: _, _ => none

theorem Json.at?_cons (k : String) (p : Path) (v : Json) :
    v.at? (k :: p) = (v.record?.bind (·.lookup k)).bind (Json.at? p) := by
  cases v <;> rfl

theorem Json.exists_of_at?_cons {k : String} {p : Path} {v w : Json}
    (h : v.at? (k :: p) = some w) :
    ∃ fs u, v = .obj fs ∧ fs.lookup k = some u ∧ u.at? p = some w := by
  cases v with
  | obj fs =>
    obtain ⟨u, hu, hw⟩ := Option.bind_eq_some_iff.mp h
    exact ⟨fs, u, rfl, hu, hw⟩
  | _ => simp [at?] at h

theorem Json.at?_append (p : Path) (k : String) (v : Json) :
    v.at? (p ++ [k]) = ((v.at? p).bind Json.record?).bind (·.lookup k) := by
  induction p generalizing v with
  | nil =>
    rw [List.nil_append, at?_cons]
    show _ = v.record?.bind (·.lookup k)
    cases v.record?.bind (·.lookup k) <;> rfl
  | cons j p ih =>
    rw [List.cons_append, at?_cons, at?_cons]
    cases v.record?.bind (·.lookup j) with
    | none => rfl
    | some w => exact ih w

/-- the values that the samples have at a path -/
def valuesAlong (p : Path) (rs : List Record) : List Json :=
  rs.filterMap fun r => (Json.obj r).at? p

/-- the records that the samples have at a path -/
def recordsAlong (p : Path) (rs : List Record) : List Record :=
  (valuesAlong p rs).filterMap Json.record?

/-- what the samples have on the way along the path, and at its end, are records -/
def OnlyRecords (p : Path) (rs : List Record) : Prop :=
  ∀ q, q <+: p → ∀ v ∈ valuesAlong q rs, v.isRecord = true

theorem map_obj_records {vs : List Json} (h : ∀ v ∈ vs, v.isRecord = true) :
    (vs.filterMap Json.record?).map Json.obj = vs := by
  induction vs with
  | nil => rfl
  | cons v vs ih =>
    obtain ⟨hv, hvs⟩ := List.forall_mem_cons.mp h
    cases v with
    | obj fs =>
      show Json.obj fs :: (vs.filterMap Json.record?).map Json.obj = _
      rw [ih hvs]
    | _ => simp [Json.isRecord] at hv

theorem records_ne_nil {vs : List Json} (hne : vs ≠ []) (h : ∀ v ∈ vs, v.isRecord = true) :
    vs.filterMap Json.record? ≠ [] := by
  have hvalues := map_obj_records h
  intro e
  rw [e] at hvalues
  exact hne hvalues.symm

section
variable {rs : List Record} {p : Path} {k : String}

theorem valuesAlong_nil (rs : List Record) : valuesAlong [] rs = rs.map Json.obj := by
  show rs.filterMap (fun r => some (Json.obj r)) = _
  rw [List.filterMap_eq_map']

theorem recordsAlong_nil (rs : List Record) : recordsAlong [] rs = rs := by
  rw [recordsAlong, valuesAlong_nil]
  exact samplesOf_map_obj rs

/-- the way along a path begins with a field -/
theorem valuesAlong_cons (k : String) (p : Path) (rs : List Record) :
    valuesAlong (k :: p) rs = (valuesAt k rs).filterMap (Json.at? p) := by
  rw [valuesAt, List.filterMap_filterMap]
  rfl

theorem valuesAlong_single (k : String) (rs : List Record) :
    valuesAlong [k] rs = valuesAt k rs := by
  rw [valuesAlong_cons]
  exact List.filterMap_some

/-- the way along a path ends with a field -/
theorem valuesAlong_concat (p : Path) (k : String) (rs : List Record) :
    valuesAlong (p ++ [k]) rs = valuesAt k (recordsAlong p rs) := by
  rw [valuesAt, recordsAlong, valuesAlong, valuesAlong, List.filterMap_filterMap,
    List.filterMap_filterMap]
  refine List.filterMap_congr fun r _ => ?_
  rw [Json.at?_append, Option.bind_assoc]

theorem valuesAlong_of_records (h : ∀ v ∈ valuesAt k rs, v.isRecord = true) (p : Path) :
    valuesAlong (k :: p) rs = valuesAlong p (recordsAt k rs) := by
  rw [valuesAlong_cons, ← map_obj_records h, List.filterMap_map]
  rfl

theorem onlyRecords_nil (rs : List Record) : OnlyRecords [] rs := by
  intro q hq v hv
  obtain rfl := List.prefix_nil.mp hq
  rw [valuesAlong_nil] at hv
  obtain ⟨r, _, rfl⟩ := List.mem_map.mp hv
  rfl

theorem onlyRecords_cons : OnlyRecords (k :: p) rs ↔
    (∀ v ∈ valuesAt k rs, v.isRecord = true) ∧ OnlyRecords p (recordsAt k rs) := by
  constructor
  · intro h
    have hk : ∀ v ∈ valuesAt k rs, v.isRecord = true := by
      intro v hv
      refine h [k] (List.prefix_append [k] p) v ?_
      rwa [valuesAlong_single]
    refine ⟨hk, fun q hq v hv => ?_⟩
    refine h (k :: q) (List.prefix_cons_inj k |>.mpr hq) v ?_
    rwa [valuesAlong_of_records hk]
  · rintro ⟨hk, h⟩ q hq v hv
    cases q with
    | nil => exact onlyRecords_nil rs [] (List.prefix_refl []) v hv
    | cons j q =>
      obtain ⟨rfl, hqp⟩ := List.cons_prefix_cons.mp hq
      rw [valuesAlong_of_records hk] at hv
      exact h q hqp v hv

theorem OnlyRecords.recordsAlong_cons (h : OnlyRecords (k :: p) rs) :
    recordsAlong (k :: p) rs = recordsAlong p (recordsAt k rs) := by
  rw [recordsAlong, valuesAlong_of_records (onlyRecords_cons.mp h).1, recordsAlong]

end

/-! ## merged fields -/

/-- the value is merged from those of a field, or it is the only one -/
def Stands (values : List Json) (v : Json) : Prop := v = mergedValue values ∨ values = [v]

section
variable {values : List Json} {v : Json}

/-- what stands for arrays has their items -/
theorem Stands.arrays (h : Stands values v) (ha : ∀ w ∈ values, w.isArray = true) :
    ∃ xs, v = .arr xs ∧ distinctBy Json.canonical xs =
      distinctBy Json.canonical (values.filterMap Json.items?).flatten := by
  rcases h with rfl | rfl
  · refine ⟨_, mergedValue_arrays (List.all_eq_true.mpr ha), ?_⟩
    exact distinctBy_of_pairwise (pairwise_distinctBy _ _)
  · have hv := ha v (by simp)
    cases v with
    | arr xs =>
      refine ⟨xs, rfl, ?_⟩
      show _ = distinctBy Json.canonical [xs].flatten
      rw [List.flatten_singleton]
    | _ => simp [Json.isArray] at hv

/-- what stands for records is merged from them -/
theorem Stands.records (h : Stands values v) (hne : values ≠ [])
    (hr : ∀ w ∈ values, w.isRecord = true) :
    v = .obj (mergedRecord (values.filterMap Json.record?)) := by
  rcases h with rfl | rfl
  · exact mergedValue_records hne (List.all_eq_true.mpr hr)
  · have hv := hr v (by simp)
    cases v with
    | obj fs =>
      show _ = Json.obj (mergedRecord [fs])
      rw [mergedRecord_single]
    | _ => simp [Json.isRecord] at hv

/-- what stands for values of other kinds is the first one known -/
theorem Stands.other (h : Stands values v) (ha : ¬ ∀ w ∈ values, w.isArray = true)
    (hr : ¬ ∀ w ∈ values, w.isRecord = true) : v = firstKnown values := by
  rcases h with rfl | rfl
  · rw [← List.all_eq_true] at ha hr
    exact mergedValue_other ha hr
  · exact (firstKnown_single v).symm

theorem Stands.leaf (h : Stands values v) (hne : values ≠ [])
    (hl : ∀ w ∈ values, w.isLeaf = true) : v = firstKnown values :=
  h.other (not_all_arrays hne hl) (not_all_records hne hl)

end

section
variable {rs : List Record} {k : String}

theorem mem_keysOf_of_valuesAt (h : valuesAt k rs ≠ []) : k ∈ keysOf rs := by
  obtain ⟨v, hv⟩ := List.exists_mem_of_ne_nil _ h
  obtain ⟨r, hr, hl⟩ := exists_of_mem_valuesAt hv
  exact mem_keysOf.mpr ⟨r, hr, Fields.mem_names_of_lookup hl⟩

theorem valuesAt_singleton (k : String) (r : Record) : valuesAt k [r] = (r.lookup k).toList := by
  rw [valuesAt, List.filterMap_cons, List.filterMap_nil]
  cases r.lookup k <;> rfl

/-- what a merged record has in its fields stands for their values -/
theorem lookup_mergedRecord (h : valuesAt k rs ≠ []) :
    ∃ v, (mergedRecord rs).lookup k = some v ∧ Stands (valuesAt k rs) v := by
  by_cases hlen : rs.length = 1
  · obtain ⟨r, rfl⟩ := List.length_eq_one_iff.mp hlen
    rw [valuesAt_singleton] at h ⊢
    cases hl : r.lookup k with
    | none => simp [hl] at h
    | some v =>
      rw [mergedRecord_single]
      exact ⟨v, hl, .inr rfl⟩
  · refine ⟨mergedValue (valuesAt k rs), ?_, .inl rfl⟩
    rw [mergedRecord_of_length hlen]
    exact Fields.lookup_map_names _ (mem_keysOf_of_valuesAt h)

/-- a merged record has no other fields -/
theorem lookup_mergedRecord_none (h : valuesAt k rs = []) : (mergedRecord rs).lookup k = none := by
  by_cases hlen : rs.length = 1
  · obtain ⟨r, rfl⟩ := List.length_eq_one_iff.mp hlen
    rw [valuesAt_singleton] at h
    rw [mergedRecord_single]
    exact Option.toList_eq_nil_iff.mp h
  · rw [mergedRecord_of_length hlen, List.lookup_eq_none_iff]
    intro p hp
    obtain ⟨j, hj, rfl⟩ := List.mem_map.mp hp
    rw [bne_iff_ne]
    rintro rfl
    exact valuesAt_ne_nil hj h

/-- where the samples have records only, a path leads in the merged record to these records
merged -/
theorem at?_mergedRecord {p : Path} {rs : List Record} (h : OnlyRecords p rs)
    (hne : valuesAlong p rs ≠ []) :
    (Json.obj (mergedRecord rs)).at? p = some (.obj (mergedRecord (recordsAlong p rs))) := by
  induction p generalizing rs with
  | nil =>
    rw [recordsAlong_nil]
    rfl
  | cons k p ih =>
    obtain ⟨hk, hp⟩ := onlyRecords_cons.mp h
    rw [valuesAlong_of_records hk] at hne
    have hvalues : valuesAt k rs ≠ [] := by
      intro e
      rw [recordsAt, e] at hne
      exact hne rfl
    obtain ⟨v, hv, hs⟩ := lookup_mergedRecord hvalues
    have hrecord : v = .obj (mergedRecord (recordsAt k rs)) := hs.records hvalues hk
    rw [h.recordsAlong_cons, Json.at?_cons, Json.record?_obj, Option.bind_some, hv, hrecord]
    exact ih hp hne

end

end SampleTypes
