import SampleTypes.Proofs.Sample.Along

/-!
# What merging keeps

The merged record has the keys of all samples and invents none.  Of arrays it keeps every item, up
to the order of fields; of anything else but records it keeps a value that some sample has, and not
null if it can be avoided.

* `Kept vs v`            what `v` keeps of the values `vs` of a field;
* `names_mergedRecord`   the keys of a merged record;
* `keysDistinct_mergedRecord`  no key of a merged record, or below it, comes twice;
* `kept_mergeSamples`    the main statement, at every path that leads through records.
-/

namespace SampleTypes

/-- what a merged value keeps of the values of its field: the items of arrays, up to the order of
fields, and one of the values of other kinds -/
structure Kept (values : List Json) (v : Json) : Prop where
  arrays : (∀ w ∈ values, w.isArray = true) → ∃ xs, v = .arr xs ∧
    ∀ e : Json, (∃ x ∈ xs, x.canonical = e.canonical) ↔
      ∃ ys, .arr ys ∈ values ∧ ∃ y ∈ ys, y.canonical = e.canonical
  other : (¬ ∀ w ∈ values, w.isArray = true) → (¬ ∀ w ∈ values, w.isRecord = true) →
    v ∈ values ∧ ((∃ w ∈ values, w.isNull = false) → v.isNull = false)

/-! ## fields -/

theorem mem_flatten_items {values : List Json} {P : Json → Prop} :
    (∃ y ∈ (values.filterMap Json.items?).flatten, P y) ↔
      ∃ ys, .arr ys ∈ values ∧ ∃ y ∈ ys, P y := by
  constructor
  · rintro ⟨y, hy, hp⟩
    obtain ⟨ys, hys, hy⟩ := List.mem_flatten.mp hy
    obtain ⟨v, hv, e⟩ := List.mem_filterMap.mp hys
    cases v with
    | arr zs =>
      obtain rfl : zs = ys := Option.some.inj e
      exact ⟨zs, hv, y, hy, hp⟩
    | _ => simp [Json.items?] at e
  · rintro ⟨ys, hys, y, hy, hp⟩
    exact ⟨y, List.mem_flatten.mpr ⟨ys, List.mem_filterMap.mpr ⟨_, hys, rfl⟩, hy⟩, hp⟩

theorem Stands.kept {values : List Json} {v : Json} (h : Stands values v) (hne : values ≠ []) :
    Kept values v := by
  constructor
  · intro ha
    obtain ⟨xs, rfl, hxs⟩ := h.arrays ha
    refine ⟨xs, rfl, fun e => ?_⟩
    rw [exists_key_congr hxs]
    exact mem_flatten_items
  · intro ha hr
    obtain rfl := h.other ha hr
    exact ⟨firstKnown_mem hne, isNull_firstKnown⟩

theorem names_mergedRecord {rs : List Record} (h : ∀ r ∈ rs, (Fields.names r).Nodup) :
    Fields.names (mergedRecord rs) = keysOf rs := by
  by_cases hlen : rs.length = 1
  · obtain ⟨r, rfl⟩ := List.length_eq_one_iff.mp hlen
    rw [mergedRecord_single, keysOf_single (h r (by simp))]
  · exact names_mergedRecord_of_length hlen

theorem keysDistinct_mergedValue {values : List Json} (hne : values ≠ [])
    (h : ∀ v ∈ values, v.keysDistinct = true)
    (hrecords : (Json.obj (mergedRecord (values.filterMap Json.record?))).keysDistinct = true) :
    (mergedValue values).keysDistinct = true := by
  by_cases ha : values.all Json.isArray = true
  · rw [mergedValue_arrays ha]
    refine Json.keysDistinct_arr_iff.mpr fun x hx => ?_
    obtain ⟨xs, hxs, y, hy, rfl⟩ := mem_flatten_items.mp ⟨x, mem_of_mem_distinctBy hx, rfl⟩
    exact Json.keysDistinct_of_mem_items (h _ hxs) hy
  · by_cases hr : values.all Json.isRecord = true
    · rw [mergedValue_records hne hr]
      exact hrecords
    · rw [mergedValue_other ha hr]
      exact h _ (firstKnown_mem hne)

/-- merging names no field twice -/
theorem keysDistinct_mergedRecord {rs : List Record}
    (h : ∀ r ∈ rs, (Json.obj r).keysDistinct = true) :
    (Json.obj (mergedRecord rs)).keysDistinct = true := by
  -- by induction on the levels of records below
  suffices hn : ∀ n rs, levels rs ≤ n → (∀ r ∈ rs, (Json.obj r).keysDistinct = true) →
      (Json.obj (mergedRecord rs)).keysDistinct = true from hn _ rs (Nat.le_refl _) h
  clear h rs
  intro n
  induction n with
  | zero =>
    intro rs hn _
    obtain rfl := eq_nil_of_levels_eq_zero hn
    rfl
  | succ n ih =>
    intro rs hn h
    by_cases hlen : rs.length = 1
    · obtain ⟨r, rfl⟩ := List.length_eq_one_iff.mp hlen
      rw [mergedRecord_single]
      exact h r List.mem_cons_self
    refine Json.keysDistinct_obj_iff.mpr ⟨?_, fun p hp => ?_⟩
    · rw [names_mergedRecord_of_length hlen]
      exact nodup_keysOf rs
    · rw [mergedRecord_of_length hlen] at hp
      obtain ⟨k, hk, rfl⟩ := List.mem_map.mp hp
      have hvalues : ∀ v ∈ valuesAt k rs, v.keysDistinct = true := by
        intro v hv
        obtain ⟨r, hr, hl⟩ := exists_of_mem_valuesAt hv
        exact Json.keysDistinct_of_mem_fields (h r hr) (Fields.mem_of_lookup hl)
      exact keysDistinct_mergedValue (valuesAt_ne_nil hk) hvalues
        (ih _ (levels_recordsAt hn k) fun r hr => hvalues _ (mem_recordsAt.mp hr))

/-! ## paths -/

theorem Json.keysDistinct_at? {p : Path} {v w : Json} (h : v.keysDistinct = true)
    (hw : v.at? p = some w) : w.keysDistinct = true := by
  induction p generalizing v with
  | nil => exact Option.some.inj hw ▸ h
  | cons k p ih =>
    obtain ⟨fs, u, rfl, hu, hw⟩ := exists_of_at?_cons hw
    exact ih (keysDistinct_of_mem_fields h (Fields.mem_of_lookup hu)) hw

theorem nodup_names_recordsAlong {rs : List Record}
    (h : ∀ r ∈ rs, (Json.obj r).keysDistinct = true) (p : Path) :
    ∀ r ∈ recordsAlong p rs, (Fields.names r).Nodup := by
  intro r hr
  obtain ⟨v, hv, e⟩ := List.mem_filterMap.mp hr
  obtain ⟨t, ht, hp⟩ := List.mem_filterMap.mp hv
  have hd : v.keysDistinct = true := Json.keysDistinct_at? (h t ht) hp
  cases v with
  | obj fs =>
    obtain rfl : fs = r := Option.some.inj e
    exact Json.nodup_names_of_keysDistinct hd
  | _ => simp [Json.record?] at e

/-- At a path along which the samples have only records, the merged samples have a record.  Its
keys are those of the samples' records, and what stands under a key is kept of their values. -/
theorem kept_mergeSamples {rs : List Record} (hkeys : ∀ r ∈ rs, (Json.obj r).keysDistinct = true)
    {p : Path} (hp : OnlyRecords p rs) (hne : valuesAlong p rs ≠ []) :
    ∃ merged : Record, (mergeSamples (rs.map Json.obj)).record.at? p = some (.obj merged) ∧
      FirstSeen ((recordsAlong p rs).flatMap Fields.names) (Fields.names merged) ∧
      ∀ k ∈ Fields.names merged, ∃ v, merged.lookup k = some v ∧
        Kept (valuesAlong (p ++ [k]) rs) v := by
  have hnames := names_mergedRecord (nodup_names_recordsAlong hkeys p)
  refine ⟨mergedRecord (recordsAlong p rs), ?_, ?_, ?_⟩
  · rw [record_mergeSamples_eq]
    exact at?_mergedRecord hp hne
  · rw [hnames]
    exact firstSeen_distinct _
  · intro k hk
    rw [hnames] at hk
    have hvalues : valuesAt k (recordsAlong p rs) ≠ [] := valuesAt_ne_nil hk
    obtain ⟨v, hv, hs⟩ := lookup_mergedRecord hvalues
    rw [valuesAlong_concat]
    exact ⟨v, hv, hs.kept hvalues⟩

/-- two of three samples have a record under `r`; one of them holds null where the other holds a
text, and both have the item 1 -/
theorem kept_mergeSamples_nested :
    let rs : List Record := [
      [("r", .obj [("x", .null), ("y", .arr [.int 1, .int 1])])],
      [("z", .bool true)],
      [("r", .obj [("y", .arr [.int 2, .int 1]), ("x", .str "s")])]]
    (∀ r ∈ rs, (Json.obj r).keysDistinct = true) ∧ OnlyRecords ["r"] rs ∧
      valuesAlong ["r"] rs ≠ [] ∧
      ∃ merged : Record, (mergeSamples (rs.map Json.obj)).record.at? ["r"] = some (.obj merged) ∧
        FirstSeen ["x", "y", "y", "x"] (Fields.names merged) ∧
        ∃ v, merged.lookup "x" = some v ∧ v.isNull = false := by
  intro rs
  have hkeys : ∀ r ∈ rs, (Json.obj r).keysDistinct = true := by decide
  have hr : ∀ v ∈ valuesAt "r" rs, v.isRecord = true := by decide
  have hp : OnlyRecords ["r"] rs := onlyRecords_cons.mpr ⟨hr, onlyRecords_nil _⟩
  have hne : valuesAlong ["r"] rs ≠ [] := List.cons_ne_nil _ _
  obtain ⟨merged, hm, hnames, hkept⟩ := kept_mergeSamples hkeys hp hne
  have hx : "x" ∈ Fields.names merged := (hnames.mem_iff "x").mpr (by decide)
  obtain ⟨v, hv, hk⟩ := hkept "x" hx
  have hnull : v.isNull = false := (hk.other (by decide) (by decide)).2 (by decide)
  exact ⟨hkeys, hp, hne, merged, hm, hnames, v, hv, hnull⟩

end SampleTypes
