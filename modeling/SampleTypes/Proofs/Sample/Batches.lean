import SampleTypes.Proofs.Sample.Along

/-!
# Merging in batches

Samples may be merged batch by batch, and the merged batches once more, if the values at every
path are of one kind.  The order of keys and of items comes out the same.

A batch of one record is not touched, and neither is a record that only one batch has, while all
others are built anew.  `Stands` covers both: what stands for arrays may still repeat items, which
the second merging takes once each.

* `OneKind vs`             arrays only, records only, or neither;
* `Uniform rs`             so it is at every path;
* `mergedRecord_batches`   any number of batches, by induction on the levels;
* `mergeSamples_batches`   two batches of samples.
-/

namespace SampleTypes

/-- the values are arrays only, records only, or neither; null is neither -/
def OneKind (vs : List Json) : Prop :=
  (∀ v ∈ vs, v.isArray = true) ∨ (∀ v ∈ vs, v.isRecord = true) ∨ ∀ v ∈ vs, v.isLeaf = true

/-- at every path the values that the samples have are of one kind -/
def Uniform (rs : List Record) : Prop := ∀ p, OneKind (valuesAlong p rs)

theorem oneKind_nil : OneKind [] := .inl (by simp)

theorem valuesAlong_of_no_records {k : String} {rs : List Record}
    (h : ∀ v ∈ valuesAt k rs, v.isRecord = false) (j : String) (p : Path) :
    valuesAlong (k :: j :: p) rs = [] := by
  rw [valuesAlong_cons, List.filterMap_eq_nil_iff]
  intro v hv
  have hrecord := h v hv
  cases v with
  | obj fs => exact Bool.noConfusion hrecord
  | _ => rfl

theorem uniform_iff {rs : List Record} : Uniform rs ↔ ∀ k, OneKind (valuesAt k rs) ∧
    ((∀ v ∈ valuesAt k rs, v.isRecord = true) → Uniform (recordsAt k rs)) := by
  constructor
  · intro h k
    refine ⟨?_, fun hk p => ?_⟩
    · rw [← valuesAlong_single]
      exact h [k]
    · rw [← valuesAlong_of_records hk]
      exact h (k :: p)
  · intro h p
    match p with
    | [] => exact .inr (.inl (onlyRecords_nil rs [] (List.prefix_refl [])))
    | [k] =>
      rw [valuesAlong_single]
      exact (h k).1
    | k :: j :: p =>
      obtain ⟨hkind, hbelow⟩ := h k
      have hnone : (∀ v ∈ valuesAt k rs, v.isRecord = false) →
          OneKind (valuesAlong (k :: j :: p) rs) := by
        intro hno
        rw [valuesAlong_of_no_records hno]
        exact oneKind_nil
      rcases hkind with ha | hr | hl
      · refine hnone fun v hv => ?_
        have := ha v hv
        cases v with
        | arr xs => rfl
        | _ => simp [Json.isArray] at this
      · rw [valuesAlong_of_records hr]
        exact hbelow hr (j :: p)
      · refine hnone fun v hv => ?_
        have := hl v hv
        cases v with
        | obj fs => simp [Json.isLeaf] at this
        | _ => rfl

/-- only the keys that occur have to be looked at -/
theorem uniform_of_keys {rs : List Record} (h : ∀ k ∈ keysOf rs, OneKind (valuesAt k rs) ∧
    ((∀ v ∈ valuesAt k rs, v.isRecord = true) → Uniform (recordsAt k rs))) : Uniform rs := by
  refine uniform_iff.mpr fun k => ?_
  by_cases hk : valuesAt k rs = []
  · rw [recordsAt, hk]
    exact ⟨oneKind_nil, fun _ _ => oneKind_nil⟩
  · exact h k (mem_keysOf_of_valuesAt hk)

/-! ## lists of batches -/

section
variable {α β : Type}

theorem filterMap_eq_map_filter {f : α → Option β} {p : α → Bool} {g : α → β} {l : List α}
    (h : ∀ x ∈ l, f x = if p x then some (g x) else none) :
    l.filterMap f = (l.filter p).map g := by
  induction l with
  | nil => rfl
  | cons x l ih =>
    obtain ⟨hx, hl⟩ := List.forall_mem_cons.mp h
    rw [List.filterMap_cons, hx, ih hl]
    cases hp : p x with
    | true =>
      rw [List.filter_cons_of_pos hp]
      rfl
    | false =>
      rw [List.filter_cons_of_neg (by simp [hp])]
      rfl

theorem flatMap_filter_of_empty {f : α → List β} {p : α → Bool} {l : List α}
    (h : ∀ x ∈ l, p x = false → f x = []) : (l.filter p).flatMap f = l.flatMap f := by
  induction l with
  | nil => rfl
  | cons x l ih =>
    obtain ⟨hx, hl⟩ := List.forall_mem_cons.mp h
    rw [List.flatMap_cons]
    cases hp : p x with
    | true => rw [List.filter_cons_of_pos hp, List.flatMap_cons, ih hl]
    | false => rw [List.filter_cons_of_neg (by simp [hp]), ih hl, hx hp, List.nil_append]

theorem length_le_length_flatten {ls : List (List α)} (h : ∀ l ∈ ls, l ≠ []) :
    ls.length ≤ ls.flatten.length := by
  induction ls with
  | nil => exact Nat.le_refl _
  | cons l ls ih =>
    obtain ⟨hl, hls⟩ := List.forall_mem_cons.mp h
    have hpos : 0 < l.length := List.length_pos_of_ne_nil hl
    have hrest := ih hls
    rw [List.flatten_cons, List.length_append, List.length_cons]
    omega

end

theorem find?_map_firstKnown (vss : List (List Json)) :
    (vss.map firstKnown).find? (!·.isNull) = vss.flatten.find? (!·.isNull) := by
  induction vss with
  | nil => rfl
  | cons vs vss ih =>
    rw [List.map_cons, List.find?_cons, List.flatten_cons, List.find?_append, ih, firstKnown_eq]
    cases hf : vs.find? (!·.isNull) with
    | none => rfl
    | some v =>
      have hv := List.find?_some hf
      rw [Option.getD_some, hv]
      rfl

theorem firstKnown_flatten (vss : List (List Json)) :
    firstKnown (vss.map firstKnown) = firstKnown vss.flatten := by
  rw [firstKnown_eq, firstKnown_eq, find?_map_firstKnown]

/-! ## keys -/

theorem distinct_names_mergedRecord (bs : List Record) :
    distinct (Fields.names (mergedRecord bs)) = distinct (bs.flatMap Fields.names) := by
  by_cases hlen : bs.length = 1
  · obtain ⟨r, rfl⟩ := List.length_eq_one_iff.mp hlen
    rw [mergedRecord_single, List.flatMap_singleton]
  · rw [names_mergedRecord_of_length hlen]
    exact distinctBy_of_pairwise (pairwise_distinctBy _ _)

theorem keysOf_batches (bss : List (List Record)) :
    keysOf (bss.map mergedRecord) = keysOf bss.flatten := by
  rw [keysOf, keysOf, List.flatMap_map, List.flatten_eq_flatMap, List.flatMap_assoc]
  exact distinctBy_flatMap_congr fun bs _ => distinct_names_mergedRecord bs

/-! ## the values of one field -/

section
variable {bss : List (List Record)} {k : String}

/-- the batches that have values in the field -/
def having (k : String) (bss : List (List Record)) : List (List Record) :=
  bss.filter fun bs => !(valuesAt k bs).isEmpty

theorem mem_having {bs : List Record} : bs ∈ having k bss ↔ bs ∈ bss ∧ valuesAt k bs ≠ [] := by
  rw [having, List.mem_filter]
  simp

theorem valuesAt_flatten (k : String) (bss : List (List Record)) :
    valuesAt k bss.flatten = bss.flatMap (valuesAt k) := by
  rw [valuesAt, List.filterMap_flatten, ← List.flatMap_def]
  rfl

theorem mem_valuesAt_flatten {bs : List Record} (hbs : bs ∈ bss) {v : Json}
    (hv : v ∈ valuesAt k bs) : v ∈ valuesAt k bss.flatten := by
  rw [valuesAt_flatten]
  exact List.mem_flatMap.mpr ⟨bs, hbs, hv⟩

/-- a merged batch has one value in the field for those of the batch -/
theorem valuesAt_batches {F : List Record → Json}
    (h : ∀ bs ∈ having k bss, ∀ v, Stands (valuesAt k bs) v → v = F bs) :
    valuesAt k (bss.map mergedRecord) = (having k bss).map F := by
  rw [valuesAt, List.filterMap_map]
  refine filterMap_eq_map_filter fun bs hbs => ?_
  show (mergedRecord bs).lookup k = _
  by_cases hne : valuesAt k bs = []
  · rw [lookup_mergedRecord_none hne, hne]
    rfl
  · obtain ⟨v, hv, hs⟩ := lookup_mergedRecord hne
    rw [hv, h bs (mem_having.mpr ⟨hbs, hne⟩) v hs]
    simp [hne]

theorem mem_valuesAt_batches {v : Json} (hv : v ∈ valuesAt k (bss.map mergedRecord)) :
    ∃ bs ∈ having k bss, Stands (valuesAt k bs) v := by
  obtain ⟨r, hr, hl⟩ := exists_of_mem_valuesAt hv
  obtain ⟨bs, hbs, rfl⟩ := List.mem_map.mp hr
  have hne : valuesAt k bs ≠ [] := by
    intro e
    rw [lookup_mergedRecord_none e] at hl
    exact absurd hl (by simp)
  obtain ⟨w, hw, hs⟩ := lookup_mergedRecord hne
  rw [hl] at hw
  exact ⟨bs, mem_having.mpr ⟨hbs, hne⟩, Option.some.inj hw ▸ hs⟩

/-- the items of a merged batch are those of the batch, taken once each or not -/
theorem distinct_items_mergedRecord {bs : List Record}
    (ha : ∀ v ∈ valuesAt k bs, v.isArray = true) :
    distinctBy Json.canonical (arraysAt k [mergedRecord bs]).flatten =
      distinctBy Json.canonical (arraysAt k bs).flatten := by
  rw [arraysAt, valuesAt_singleton]
  by_cases hne : valuesAt k bs = []
  · rw [lookup_mergedRecord_none hne, arraysAt, hne]
    rfl
  · obtain ⟨v, hv, hs⟩ := lookup_mergedRecord hne
    obtain ⟨xs, rfl, hxs⟩ := hs.arrays ha
    rw [hv, arraysAt, ← hxs]
    show distinctBy Json.canonical [xs].flatten = _
    rw [List.flatten_singleton]

theorem items_flatMap {β : Type} (k : String) (f : β → List Record) (bs : List β) :
    (arraysAt k (bs.flatMap f)).flatten = bs.flatMap fun b => (arraysAt k (f b)).flatten := by
  induction bs with
  | nil => rfl
  | cons b bs ih =>
    rw [List.flatMap_cons, List.flatMap_cons, ← ih, arraysAt, valuesAt_append,
      List.filterMap_append, List.flatten_append]
    rfl

/-- arrays: the union of unions is the union of all -/
theorem mergedValue_arrays_batches (ha : ∀ v ∈ valuesAt k bss.flatten, v.isArray = true) :
    mergedValue (valuesAt k (bss.map mergedRecord)) = mergedValue (valuesAt k bss.flatten) := by
  have hbatch : ∀ bs ∈ bss, ∀ v ∈ valuesAt k bs, v.isArray = true :=
    fun bs hbs v hv => ha v (mem_valuesAt_flatten hbs hv)
  have hmerged : ∀ v ∈ valuesAt k (bss.map mergedRecord), v.isArray = true := by
    intro v hv
    obtain ⟨bs, hbs, hs⟩ := mem_valuesAt_batches hv
    obtain ⟨xs, rfl, _⟩ := hs.arrays (hbatch bs (mem_having.mp hbs).1)
    rfl
  rw [mergedValue_arrays (List.all_eq_true.mpr hmerged),
    mergedValue_arrays (List.all_eq_true.mpr ha)]
  have hitems : distinctBy Json.canonical (arraysAt k (bss.map mergedRecord)).flatten =
      distinctBy Json.canonical (arraysAt k bss.flatten).flatten := by
    have hflat : bss.flatten = bss.flatMap id := List.flatten_eq_flatMap
    rw [List.map_eq_flatMap, hflat, items_flatMap, items_flatMap]
    exact distinctBy_flatMap_congr fun bs hbs => distinct_items_mergedRecord (hbatch bs hbs)
  exact congrArg Json.arr hitems

theorem having_ne_nil (h : valuesAt k bss.flatten ≠ []) : having k bss ≠ [] := by
  obtain ⟨v, hv⟩ := List.exists_mem_of_ne_nil _ h
  rw [valuesAt_flatten] at hv
  obtain ⟨bs, hbs, hv⟩ := List.mem_flatMap.mp hv
  exact List.ne_nil_of_mem (mem_having.mpr ⟨hbs, List.ne_nil_of_mem hv⟩)

/-- neither arrays nor records: the first value known of all is the first one known of those that
the batches know -/
theorem mergedValue_leaves_batches (hne : valuesAt k bss.flatten ≠ [])
    (hl : ∀ v ∈ valuesAt k bss.flatten, v.isLeaf = true) :
    mergedValue (valuesAt k (bss.map mergedRecord)) = mergedValue (valuesAt k bss.flatten) := by
  have hbatch : ∀ bs ∈ having k bss, ∀ v ∈ valuesAt k bs, v.isLeaf = true :=
    fun bs hbs v hv => hl v (mem_valuesAt_flatten (mem_having.mp hbs).1 hv)
  have hmerged : valuesAt k (bss.map mergedRecord) =
      (having k bss).map fun bs => firstKnown (valuesAt k bs) := by
    refine valuesAt_batches fun bs hbs v hs => ?_
    exact hs.leaf (mem_having.mp hbs).2 (hbatch bs hbs)
  have hleaf : ∀ v ∈ (having k bss).map fun bs => firstKnown (valuesAt k bs), v.isLeaf = true := by
    intro v hv
    obtain ⟨bs, hbs, rfl⟩ := List.mem_map.mp hv
    exact hbatch bs hbs _ (firstKnown_mem (mem_having.mp hbs).2)
  have hsome : ((having k bss).map fun bs => firstKnown (valuesAt k bs)) ≠ [] := by
    simpa using having_ne_nil hne
  have hvalues : ((having k bss).map (valuesAt k)).flatten = valuesAt k bss.flatten := by
    rw [valuesAt_flatten, ← List.flatMap_def]
    refine flatMap_filter_of_empty fun bs _ hbs => ?_
    simpa using hbs
  rw [hmerged, mergedValue_leaves hsome hleaf, mergedValue_leaves hne hl, ← hvalues,
    ← firstKnown_flatten, List.map_map]
  rfl

theorem recordsAt_having (k : String) (bss : List (List Record)) :
    ((having k bss).map (recordsAt k)).flatten = recordsAt k bss.flatten := by
  have hall : recordsAt k bss.flatten = bss.flatMap (recordsAt k) := by
    rw [recordsAt, valuesAt_flatten, List.filterMap_flatMap]
    rfl
  rw [hall, ← List.flatMap_def]
  refine flatMap_filter_of_empty fun bs _ hbs => ?_
  have hnone : valuesAt k bs = [] := by simpa using hbs
  rw [recordsAt, hnone]
  rfl

/-- records: what is in the field is merged in batches too -/
theorem mergedValue_records_batches (hne : valuesAt k bss.flatten ≠ [])
    (hr : ∀ v ∈ valuesAt k bss.flatten, v.isRecord = true)
    (ih : mergedRecord (((having k bss).map (recordsAt k)).map mergedRecord) =
      mergedRecord ((having k bss).map (recordsAt k)).flatten) :
    mergedValue (valuesAt k (bss.map mergedRecord)) = mergedValue (valuesAt k bss.flatten) := by
  have hmerged : valuesAt k (bss.map mergedRecord) =
      (((having k bss).map (recordsAt k)).map mergedRecord).map Json.obj := by
    rw [List.map_map, List.map_map]
    refine valuesAt_batches fun bs hbs v hs => ?_
    refine hs.records (mem_having.mp hbs).2 fun w hw => ?_
    exact hr w (mem_valuesAt_flatten (mem_having.mp hbs).1 hw)
  have hrecord : (valuesAt k (bss.map mergedRecord)).all Json.isRecord = true := by
    rw [hmerged, List.all_map]
    exact List.all_eq_true.mpr fun _ _ => rfl
  have hsome : valuesAt k (bss.map mergedRecord) ≠ [] := by
    rw [hmerged]
    simpa using having_ne_nil hne
  rw [mergedValue_records hsome hrecord, mergedValue_records hne (List.all_eq_true.mpr hr), hmerged]
  have hback := samplesOf_map_obj (((having k bss).map (recordsAt k)).map mergedRecord)
  rw [samplesOf] at hback
  rw [hback, ih, recordsAt_having]
  rfl

end

/-! ## batches -/

/-- merged batches merge into what all their records merge into -/
theorem mergedRecord_batches {bss : List (List Record)} (hne : ∀ bs ∈ bss, bs ≠ [])
    (h : Uniform bss.flatten) : mergedRecord (bss.map mergedRecord) = mergedRecord bss.flatten := by
  -- the records in one field are again some batches, of one level less
  generalize hn : levels bss.flatten = n
  replace hn := Nat.le_of_eq hn
  induction n generalizing bss with
  | zero =>
    have hflat : bss.flatten = [] := eq_nil_of_levels_eq_zero hn
    cases bss with
    | nil => rfl
    | cons bs bss =>
      have hbs : bs = [] := (List.append_eq_nil_iff.mp hflat).1
      exact absurd hbs (hne bs (by simp))
  | succ n ih =>
    by_cases hlen : bss.length = 1
    · obtain ⟨bs, rfl⟩ := List.length_eq_one_iff.mp hlen
      rw [List.map_singleton, mergedRecord_single, List.flatten_singleton]
    have hmap : (bss.map mergedRecord).length ≠ 1 := by rwa [List.length_map]
    have hflat : bss.flatten.length ≠ 1 := by
      intro e
      have hle := length_le_length_flatten hne
      cases bss with
      | nil => simp at e
      | cons bs bss => simp only [List.length_cons] at hlen hle; omega
    rw [mergedRecord_of_length hmap, mergedRecord_of_length hflat, keysOf_batches]
    refine List.map_congr_left fun k hk => ?_
    have hvalues : valuesAt k bss.flatten ≠ [] := valuesAt_ne_nil hk
    obtain ⟨hkind, hbelow⟩ := uniform_iff.mp h k
    have hfield : mergedValue (valuesAt k (bss.map mergedRecord)) =
        mergedValue (valuesAt k bss.flatten) := by
      rcases hkind with ha | hr | hl
      · exact mergedValue_arrays_batches ha
      · refine mergedValue_records_batches hvalues hr (ih ?_ ?_ ?_)
        · intro cs hcs
          obtain ⟨bs, hbs, rfl⟩ := List.mem_map.mp hcs
          obtain ⟨hmem, hsome⟩ := mem_having.mp hbs
          exact records_ne_nil hsome fun v hv => hr v (mem_valuesAt_flatten hmem hv)
        · rw [recordsAt_having]
          exact hbelow hr
        · rw [recordsAt_having]
          exact levels_recordsAt hn k
      · exact mergedValue_leaves_batches hvalues hl
    rw [hfield]

/-- Samples merged in two batches: the merged batches merge into what all samples merge into. -/
theorem mergeSamples_batches {as bs : List Record} (ha : as ≠ []) (hb : bs ≠ [])
    (h : Uniform (as ++ bs)) :
    (mergeSamples [(mergeSamples (as.map Json.obj)).record,
        (mergeSamples (bs.map Json.obj)).record]).record =
      (mergeSamples ((as ++ bs).map Json.obj)).record := by
  have hflat : [as, bs].flatten = as ++ bs := by simp
  have hbatches : mergedRecord [mergedRecord as, mergedRecord bs] = mergedRecord (as ++ bs) := by
    rw [← hflat] at h ⊢
    refine mergedRecord_batches (fun cs hcs => ?_) h
    rcases List.mem_pair.mp hcs with rfl | rfl
    · exact ha
    · exact hb
  have hpair := record_mergeSamples_eq [mergedRecord as, mergedRecord bs]
  rw [record_mergeSamples_eq, record_mergeSamples_eq, record_mergeSamples_eq, ← hbatches]
  exact hpair

/-- a batch of two and a batch of one, which is not touched: it repeats an item of the other one,
and has a number where the other one has null -/
theorem mergeSamples_batches_three :
    let as : List Record := [[("a", .arr [.int 1, .int 1])], [("r", .obj [("x", .null)])]]
    let bs : List Record := [[("r", .obj [("x", .int 3)]), ("a", .arr [.int 2, .int 1])]]
    as ≠ [] ∧ bs ≠ [] ∧ Uniform (as ++ bs) ∧
      (mergeSamples [(mergeSamples (as.map Json.obj)).record,
          (mergeSamples (bs.map Json.obj)).record]).record =
        (mergeSamples ((as ++ bs).map Json.obj)).record := by
  intro as bs
  have ha : as ≠ [] := List.cons_ne_nil _ _
  have hb : bs ≠ [] := List.cons_ne_nil _ _
  have hbelow : Uniform (recordsAt "r" (as ++ bs)) := by
    refine uniform_of_keys fun k hk => ?_
    obtain rfl : k = "x" := List.mem_singleton.mp hk
    exact ⟨.inr (.inr (by decide)), fun h => absurd h (by decide)⟩
  have huniform : Uniform (as ++ bs) := by
    refine uniform_of_keys fun k hk => ?_
    have hkeys : k = "a" ∨ k = "r" := List.mem_pair.mp hk
    rcases hkeys with rfl | rfl
    · exact ⟨.inl (by decide), fun h => absurd h (by decide)⟩
    · exact ⟨.inr (.inl (by decide)), fun _ => hbelow⟩
  exact ⟨ha, hb, huniform, mergeSamples_batches ha hb huniform⟩

end SampleTypes
