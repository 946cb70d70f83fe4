import Mathlib.Data.Finset.Card
import SampleTypes.Proofs.Sample.Along

/-!
# Which value sets are kept

Merging leaves a value set behind wherever it unites arrays whose items are few and all texts or
all numbers.  It does so on its way down, and goes down only where there are two or more records
and nothing else.

* `itemsAlong p rs`           the items of the arrays that the samples have at a path;
* `IsClosed kind xs`          the items are few, and all of the kind;
* `ClosedAt rs p kind`        merging gets to the path and finds arrays with such items there;
* `Representatives xs ys`     one item of each class, in the order of their first appearance;
* `mem_valueSets_iff`         the value sets that merging leaves behind;
* `valueSets_mergeSamples`    the main statement.
-/

namespace SampleTypes

/-- whether a value is of the kind; a boolean is no number -/
def ValueKind.holds : ValueKind → Json → Bool
  | .string => Json.isString
  | .number => Json.isNumber

/-- the items of the arrays that the samples have at a path -/
def itemsAlong (p : Path) (rs : List Record) : List Json :=
  ((valuesAlong p rs).filterMap Json.items?).flatten

/-- the classes of values that are the same up to the order of fields, by their canonical texts -/
def classesOf (xs : List Json) : Finset String := (xs.map Json.canonical).toFinset

/-- the items fall into some classes, but not too many, and all are of the kind -/
structure IsClosed (kind : ValueKind) (xs : List Json) : Prop where
  some : 1 ≤ (classesOf xs).card
  few : (classesOf xs).card ≤ valueSetCeiling
  ofKind : ∀ x ∈ xs, kind.holds x = true

/-- there are two or more samples; on the way to the path two or more of them have something, and
nothing but records; at its end there are arrays only, and their items are closed -/
structure ClosedAt (rs : List Record) (p : Path) (kind : ValueKind) : Prop where
  many : 2 ≤ rs.length
  way : ∀ q, q <+: p → q ≠ [] → q ≠ p →
    2 ≤ (valuesAlong q rs).length ∧ ∀ v ∈ valuesAlong q rs, v.isRecord = true
  seen : valuesAlong p rs ≠ []
  arrays : ∀ v ∈ valuesAlong p rs, v.isArray = true
  closed : IsClosed kind (itemsAlong p rs)

/-- one of the items for each class, in the order in which the classes are first seen -/
structure Representatives (xs ys : List Json) : Prop where
  mem : ∀ y ∈ ys, y ∈ xs
  classes : FirstSeen (xs.map Json.canonical) (ys.map Json.canonical)

/-! ## items -/

theorem card_classesOf (xs : List Json) :
    (classesOf xs).card = (distinctBy Json.canonical xs).length := by
  have hkeys : distinct (xs.map Json.canonical) =
      (distinctBy Json.canonical xs).map Json.canonical := distinctBy_map id Json.canonical xs
  have hset : classesOf xs = (distinct (xs.map Json.canonical)).toFinset := by
    ext c
    rw [classesOf, List.mem_toFinset, List.mem_toFinset, mem_distinct]
  rw [hset, List.toFinset_card_of_nodup (nodup_distinct _), hkeys, List.length_map]

theorem representatives_distinctBy (xs : List Json) :
    Representatives xs (distinctBy Json.canonical xs) := by
  refine ⟨fun y hy => mem_of_mem_distinctBy hy, ?_⟩
  have hkeys : distinct (xs.map Json.canonical) =
      (distinctBy Json.canonical xs).map Json.canonical := distinctBy_map id Json.canonical xs
  rw [← hkeys]
  exact firstSeen_distinct _

theorem holds_of_canonical_eq (kind : ValueKind) (x y : Json) (h : x.canonical = y.canonical)
    (hx : kind.holds x = true) : kind.holds y = true := by
  have halike := Json.alike_of_canonical_eq h
  cases x with
  | int | str =>
    rw [Json.Alike] at halike
    rw [halike]
    exact hx
  | float x =>
    rw [Json.Alike] at halike
    obtain ⟨y, rfl, _⟩ := halike
    cases kind <;> exact hx
  | null | bool | arr | obj => cases kind <;> exact Bool.noConfusion hx

/-- no value is both a text and a number -/
theorem kindOf?_eq_some_iff {kind : ValueKind} {xs : List Json} (hne : xs ≠ []) :
    ValueSet.kindOf? xs = some kind ↔ ∀ x ∈ xs, kind.holds x = true := by
  obtain ⟨x, hx⟩ := List.exists_mem_of_ne_nil _ hne
  have hclash : x.isString = true → ¬ x.isNumber = true := by
    cases x <;> simp [Json.isString, Json.isNumber]
  rw [ValueSet.kindOf?]
  by_cases hs : xs.all Json.isString = true
  · rw [if_pos hs]
    rw [List.all_eq_true] at hs
    cases kind with
    | string => exact iff_of_true rfl hs
    | number => exact iff_of_false (by simp) fun h => hclash (hs x hx) (h x hx)
  · rw [if_neg hs]
    by_cases hn : xs.all Json.isNumber = true
    · rw [if_pos hn]
      rw [List.all_eq_true] at hs hn
      cases kind with
      | string => exact iff_of_false (by simp) hs
      | number => exact iff_of_true rfl hn
    · rw [if_neg hn]
      rw [List.all_eq_true] at hs hn
      cases kind with
      | string => exact iff_of_false (by simp) hs
      | number => exact iff_of_false (by simp) hn

/-- the value set of united items, if they are closed -/
theorem mem_of?_iff {path : Path} {xs : List Json} {v : ValueSet} :
    v ∈ (ValueSet.of? path (distinctBy Json.canonical xs)).toList ↔
      ∃ kind, IsClosed kind xs ∧ v = ⟨path, kind, distinctBy Json.canonical xs⟩ := by
  have hcard := card_classesOf xs
  rw [Option.mem_toList, ValueSet.of?]
  by_cases hout : ((distinctBy Json.canonical xs).isEmpty ||
      valueSetCeiling < (distinctBy Json.canonical xs).length) = true
  · rw [if_pos hout]
    refine iff_of_false (by simp) ?_
    rintro ⟨kind, ⟨hsome, hfew, _⟩, _⟩
    rw [hcard] at hsome hfew
    rw [Bool.or_eq_true, List.isEmpty_iff_length_eq_zero, decide_eq_true_eq] at hout
    omega
  · rw [if_neg hout]
    rw [Bool.or_eq_true, List.isEmpty_iff_length_eq_zero, decide_eq_true_eq] at hout
    have hne : distinctBy Json.canonical xs ≠ [] := fun e => hout (.inl (by rw [e]; rfl))
    have hkind : ∀ kind, ValueSet.kindOf? (distinctBy Json.canonical xs) = some kind ↔
        IsClosed kind xs := by
      intro kind
      rw [kindOf?_eq_some_iff hne, forall_mem_distinctBy (holds_of_canonical_eq kind)]
      refine ⟨fun h => ⟨?_, ?_, h⟩, fun h => h.ofKind⟩ <;> rw [hcard] <;> omega
    constructor
    · intro h
      obtain ⟨kind, hk, rfl⟩ := Option.map_eq_some_iff.mp h
      exact ⟨kind, (hkind kind).mp hk, rfl⟩
    · rintro ⟨kind, hclosed, rfl⟩
      exact Option.map_eq_some_iff.mpr ⟨kind, (hkind kind).mpr hclosed, rfl⟩

/-! ## paths -/

section
variable {rs : List Record} {k : String} {p : Path} {kind : ValueKind}

theorem itemsAlong_single (k : String) (rs : List Record) :
    itemsAlong [k] rs = (arraysAt k rs).flatten := by
  rw [itemsAlong, valuesAlong_single, arraysAt]

theorem length_recordsAt (h : ∀ v ∈ valuesAt k rs, v.isRecord = true) :
    (recordsAt k rs).length = (valuesAt k rs).length := by
  rw [← List.length_map Json.obj, recordsAt, map_obj_records h]

theorem isArray_ne_isRecord {values : List Json} (hne : values ≠ [])
    (ha : ∀ v ∈ values, v.isArray = true) : ¬ ∀ v ∈ values, v.isRecord = true := by
  intro hr
  have hno := Infer.all_isRecord_of_arrays hne (List.all_eq_true.mpr ha)
  rw [List.all_eq_true.mpr hr] at hno
  exact Bool.noConfusion hno

/-- samples are no arrays themselves -/
theorem not_closedAt_nil (rs : List Record) (kind : ValueKind) : ¬ ClosedAt rs [] kind := fun h =>
  isArray_ne_isRecord h.seen h.arrays (onlyRecords_nil rs [] (List.prefix_refl []))

theorem closedAt_single : ClosedAt rs [k] kind ↔ 2 ≤ rs.length ∧ valuesAt k rs ≠ [] ∧
    (∀ v ∈ valuesAt k rs, v.isArray = true) ∧ IsClosed kind (arraysAt k rs).flatten := by
  rw [← itemsAlong_single, ← valuesAlong_single]
  constructor
  · exact fun h => ⟨h.many, h.seen, h.arrays, h.closed⟩
  · rintro ⟨hmany, hseen, harrays, hclosed⟩
    refine ⟨hmany, fun q hq hnil hne => ?_, hseen, harrays, hclosed⟩
    obtain ⟨j, q, rfl⟩ := List.exists_cons_of_ne_nil hnil
    obtain ⟨rfl, htail⟩ := List.cons_prefix_cons.mp hq
    exact absurd (List.prefix_nil.mp htail ▸ rfl) hne

/-- further down value sets are those of the records of one field -/
theorem closedAt_cons (hp : p ≠ []) : ClosedAt rs (k :: p) kind ↔ 2 ≤ rs.length ∧
    (∀ v ∈ valuesAt k rs, v.isRecord = true) ∧ ClosedAt (recordsAt k rs) p kind := by
  constructor
  · intro h
    have hk := h.way [k] (List.prefix_append [k] p) (by simp) (by simpa using hp.symm)
    rw [valuesAlong_single] at hk
    obtain ⟨hlen, hr⟩ := hk
    have hvalues := valuesAlong_of_records hr
    refine ⟨h.many, hr, ?_, fun q hq hnil hne => ?_, hvalues p ▸ h.seen, hvalues p ▸ h.arrays, ?_⟩
    · rwa [length_recordsAt hr]
    · rw [← hvalues q]
      exact h.way (k :: q) ((List.prefix_cons_inj k).mpr hq) (by simp) (by simpa using hne)
    · rw [itemsAlong, ← hvalues p]
      exact h.closed
  · rintro ⟨hmany, hr, h⟩
    have hvalues := valuesAlong_of_records hr
    refine ⟨hmany, fun q hq hnil hne => ?_, (hvalues p).symm ▸ h.seen,
      (hvalues p).symm ▸ h.arrays, ?_⟩
    · obtain ⟨j, q, rfl⟩ := List.exists_cons_of_ne_nil hnil
      obtain ⟨rfl, hqp⟩ := List.cons_prefix_cons.mp hq
      cases q with
      | nil =>
        rw [valuesAlong_single, ← length_recordsAt hr]
        exact ⟨h.many, hr⟩
      | cons i q =>
        rw [hvalues]
        exact h.way (i :: q) hqp (by simp) fun e => hne (e ▸ rfl)
    · rw [itemsAlong, hvalues p]
      exact h.closed

theorem ClosedAt.mem_keysOf (h : ClosedAt rs (k :: p) kind) : k ∈ keysOf rs := by
  refine mem_keysOf_of_valuesAt fun e => h.seen ?_
  rw [valuesAlong_cons, e, List.filterMap_nil]

end

/-! ## the walk of merging -/

/-- the value sets met from the field `k` on -/
def valueSetsAt (n : Nat) (path : Path) (rs : List Record) (k : String) : List ValueSet :=
  (mergeValues (mergeRecords n (path ++ [k])) (path ++ [k]) (valuesAt k rs)).2

section
variable {n : Nat} {path : Path} {rs : List Record} {k : String} {v : ValueSet}

theorem valueSets_single (n : Nat) (path : Path) (r : Record) :
    (mergeRecords n path [r]).2 = [] := by
  rw [mergeRecords]

theorem valueSets_succ (h : rs.length ≠ 1) :
    (mergeRecords (n + 1) path rs).2 = (keysOf rs).flatMap (valueSetsAt n path rs) := by
  rw [mergeRecords]
  · rw [List.flatMap_map]
    rfl
  · rintro r rfl
    exact h rfl

theorem valueSetsAt_arrays (h : (valuesAt k rs).all Json.isArray = true) :
    valueSetsAt n path rs k = (ValueSet.of? (path ++ [k])
      (distinctBy Json.canonical (arraysAt k rs).flatten)).toList := by
  rw [valueSetsAt, mergeValues, if_pos h, unionItems_eq]
  rfl

theorem valueSetsAt_records (ha : ¬ (valuesAt k rs).all Json.isArray = true)
    (h : (valuesAt k rs).all Json.isRecord = true) :
    valueSetsAt n path rs k = (mergeRecords n (path ++ [k]) (recordsAt k rs)).2 := by
  rw [valueSetsAt, mergeValues, if_neg ha, if_pos h]
  rfl

theorem valueSetsAt_other (ha : ¬ (valuesAt k rs).all Json.isArray = true)
    (h : ¬ (valuesAt k rs).all Json.isRecord = true) : valueSetsAt n path rs k = [] := by
  rw [valueSetsAt, mergeValues, if_neg ha, if_neg h]

/-- the value sets met from one field on, if those in the records of the field are as told -/
theorem mem_valueSetsAt_iff (hmany : 2 ≤ rs.length) (hk : k ∈ keysOf rs)
    (hbelow : ∀ base, v ∈ (mergeRecords n base (recordsAt k rs)).2 ↔
      ∃ p kind, ClosedAt (recordsAt k rs) p kind ∧
        v = ⟨base ++ p, kind, distinctBy Json.canonical (itemsAlong p (recordsAt k rs))⟩) :
    v ∈ valueSetsAt n path rs k ↔ ∃ p kind, ClosedAt rs (k :: p) kind ∧
      v = ⟨path ++ k :: p, kind, distinctBy Json.canonical (itemsAlong (k :: p) rs)⟩ := by
  have hne := valuesAt_ne_nil hk
  by_cases ha : (valuesAt k rs).all Json.isArray = true
  · rw [valueSetsAt_arrays ha, mem_of?_iff]
    rw [List.all_eq_true] at ha
    constructor
    · rintro ⟨kind, hclosed, rfl⟩
      refine ⟨[], kind, closedAt_single.mpr ⟨hmany, hne, ha, hclosed⟩, ?_⟩
      rw [itemsAlong_single]
    · rintro ⟨p, kind, h, rfl⟩
      -- there are no records to go down to
      have hp : p = [] := by
        by_contra hp
        exact isArray_ne_isRecord hne ha ((closedAt_cons hp).mp h).2.1
      subst hp
      rw [itemsAlong_single]
      exact ⟨kind, (closedAt_single.mp h).2.2.2, rfl⟩
  have hsingle : ∀ p kind, ClosedAt rs (k :: p) kind → p ≠ [] := by
    rintro p kind h rfl
    exact ha (List.all_eq_true.mpr (closedAt_single.mp h).2.2.1)
  by_cases hr : (valuesAt k rs).all Json.isRecord = true
  · rw [valueSetsAt_records ha hr, hbelow]
    rw [List.all_eq_true] at hr
    have hitems : ∀ p, itemsAlong (k :: p) rs = itemsAlong p (recordsAt k rs) := by
      intro p
      rw [itemsAlong, valuesAlong_of_records hr, itemsAlong]
    constructor
    · rintro ⟨p, kind, h, rfl⟩
      have hp : p ≠ [] := by
        rintro rfl
        exact not_closedAt_nil _ _ h
      refine ⟨p, kind, (closedAt_cons hp).mpr ⟨hmany, hr, h⟩, ?_⟩
      rw [hitems, List.append_assoc]
      rfl
    · rintro ⟨p, kind, h, rfl⟩
      refine ⟨p, kind, ((closedAt_cons (hsingle p kind h)).mp h).2.2, ?_⟩
      rw [hitems, List.append_assoc]
      rfl
  · rw [valueSetsAt_other ha hr]
    refine iff_of_false List.not_mem_nil ?_
    rintro ⟨p, kind, h, _⟩
    exact hr (List.all_eq_true.mpr ((closedAt_cons (hsingle p kind h)).mp h).2.1)

theorem many_of_mem_keysOf (hk : k ∈ keysOf rs) (hlen : rs.length ≠ 1) : 2 ≤ rs.length := by
  obtain ⟨r, hr, _⟩ := mem_keysOf.mp hk
  have hpos := List.length_pos_of_mem hr
  omega

/-- merging, to levels enough, leaves these value sets behind -/
theorem mem_valueSets_iff (hn : levels rs ≤ n) : v ∈ (mergeRecords n path rs).2 ↔
    ∃ p kind, ClosedAt rs p kind ∧
      v = ⟨path ++ p, kind, distinctBy Json.canonical (itemsAlong p rs)⟩ := by
  induction n generalizing path rs with
  | zero =>
    obtain rfl := eq_nil_of_levels_eq_zero hn
    refine iff_of_false List.not_mem_nil ?_
    rintro ⟨p, kind, h, _⟩
    exact absurd h.many (by simp)
  | succ n ih =>
    by_cases hlen : rs.length = 1
    · obtain ⟨r, rfl⟩ := List.length_eq_one_iff.mp hlen
      rw [valueSets_single]
      refine iff_of_false List.not_mem_nil ?_
      rintro ⟨p, kind, h, _⟩
      exact absurd h.many (by simp)
    have hfield : ∀ k ∈ keysOf rs, v ∈ valueSetsAt n path rs k ↔ ∃ p kind,
        ClosedAt rs (k :: p) kind ∧
          v = ⟨path ++ k :: p, kind, distinctBy Json.canonical (itemsAlong (k :: p) rs)⟩ :=
      fun k hk => mem_valueSetsAt_iff (many_of_mem_keysOf hk hlen) hk
        fun _ => ih (levels_recordsAt hn k)
    rw [valueSets_succ hlen, List.mem_flatMap]
    constructor
    · rintro ⟨k, hk, hv⟩
      obtain ⟨p, kind, h, e⟩ := (hfield k hk).mp hv
      exact ⟨k :: p, kind, h, e⟩
    · rintro ⟨p, kind, h, e⟩
      cases p with
      | nil => exact absurd h (not_closedAt_nil rs kind)
      | cons k p => exact ⟨k, h.mem_keysOf, (hfield k h.mem_keysOf).mpr ⟨p, kind, h, e⟩⟩

theorem prefix_of_mem_valueSetsAt (hn : levels rs ≤ n + 1) (hlen : rs.length ≠ 1)
    (hk : k ∈ keysOf rs) (h : v ∈ valueSetsAt n path rs k) : path ++ [k] <+: v.path := by
  obtain ⟨p, kind, _, rfl⟩ := (mem_valueSetsAt_iff (many_of_mem_keysOf hk hlen) hk
    fun base => mem_valueSets_iff (levels_recordsAt hn k)).mp h
  exact ⟨p, List.append_assoc path [k] p⟩

/-- no path has two value sets -/
theorem nodup_paths_valueSets (hn : levels rs ≤ n) :
    ((mergeRecords n path rs).2.map ValueSet.path).Nodup := by
  induction n generalizing path rs with
  | zero =>
    obtain rfl := eq_nil_of_levels_eq_zero hn
    exact List.nodup_nil
  | succ n ih =>
    by_cases hlen : rs.length = 1
    · obtain ⟨r, rfl⟩ := List.length_eq_one_iff.mp hlen
      rw [valueSets_single]
      exact List.nodup_nil
    rw [valueSets_succ hlen, List.map_flatMap, List.nodup_flatMap]
    refine ⟨fun k _ => ?_, (nodup_keysOf rs).imp_of_mem fun {j k} hj hk hne => ?_⟩
    · by_cases ha : (valuesAt k rs).all Json.isArray = true
      · rw [valueSetsAt_arrays ha]
        cases ValueSet.of? (path ++ [k]) (distinctBy Json.canonical (arraysAt k rs).flatten) with
        | none => exact List.nodup_nil
        | some v => exact List.nodup_singleton _
      · by_cases hr : (valuesAt k rs).all Json.isRecord = true
        · rw [valueSetsAt_records ha hr]
          exact ih (levels_recordsAt hn k)
        · rw [valueSetsAt_other ha hr]
          exact List.nodup_nil
    · intro q hqj hqk
      obtain ⟨v, hv, rfl⟩ := List.mem_map.mp hqj
      obtain ⟨w, hw, e⟩ := List.mem_map.mp hqk
      have hpv := prefix_of_mem_valueSetsAt hn hlen hj hv
      have hpw := prefix_of_mem_valueSetsAt hn hlen hk hw
      have hjk : j = k := eq_of_fields_prefix hpv (e ▸ hpw)
      exact hne hjk

end

/-! ## samples -/

theorem valueSets_mergeSamples_eq (rs : List Record) :
    (mergeSamples (rs.map Json.obj)).valueSets = (mergeRecords (levels rs) [] rs).2 := by
  match rs with
  | [] => rfl
  | [r] => rw [valueSets_single]; rfl
  | r :: s :: rs =>
    show (mergeRecords (levels (samplesOf ((r :: s :: rs).map Json.obj))) []
      (samplesOf ((r :: s :: rs).map Json.obj))).2 = _
    rw [samplesOf_map_obj]

theorem nodup_paths_mergeSamples (rs : List Record) :
    ((mergeSamples (rs.map Json.obj)).valueSets.map ValueSet.path).Nodup := by
  rw [valueSets_mergeSamples_eq]
  exact nodup_paths_valueSets (Nat.le_refl _)

/-- on the way to a closed value set stand two records or more, and records only -/
theorem ClosedAt.on_way {rs : List Record} {q q' : Path} {k : String} {kind : ValueKind}
    (h : ClosedAt rs (q ++ [k]) kind) (hq : q' <+: q) :
    2 ≤ (valuesAlong q' rs).length ∧ ∀ v ∈ valuesAlong q' rs, v.isRecord = true := by
  by_cases hnil : q' = []
  · subst hnil
    have hroot := onlyRecords_nil rs [] (List.prefix_refl [])
    rw [valuesAlong_nil] at hroot ⊢
    rw [List.length_map]
    exact ⟨h.many, hroot⟩
  · have hproper : q' ≠ q ++ [k] := by
      rintro rfl
      exact ne_of_below_field hq rfl
    exact h.way q' (hq.trans (List.prefix_append q [k])) hnil hproper

/-- the merged record has the united items at the path of a value set -/
theorem ClosedAt.at?_merged {rs : List Record} {p : Path} {kind : ValueKind}
    (h : ClosedAt rs p kind) : (mergeSamples (rs.map Json.obj)).record.at? p =
      some (.arr (distinctBy Json.canonical (itemsAlong p rs))) := by
  rcases List.eq_nil_or_concat p with rfl | ⟨q, k, rfl⟩
  · exact absurd h (not_closedAt_nil rs kind)
  rw [List.concat_eq_append] at h ⊢
  obtain ⟨hlen, hrecords⟩ := h.on_way (List.prefix_refl q)
  have hne : valuesAlong q rs ≠ [] := by
    rintro e
    rw [e] at hlen
    exact absurd hlen (by simp)
  have hmany : (recordsAlong q rs).length ≠ 1 := by
    rw [recordsAlong, ← List.length_map Json.obj, map_obj_records hrecords]
    omega
  have hvalues : valuesAt k (recordsAlong q rs) ≠ [] := valuesAlong_concat q k rs ▸ h.seen
  have harrays := List.all_eq_true.mpr (valuesAlong_concat q k rs ▸ h.arrays)
  have hlookup : (mergedRecord (recordsAlong q rs)).lookup k =
      some (mergedValue (valuesAt k (recordsAlong q rs))) := by
    rw [mergedRecord_of_length hmany]
    exact Fields.lookup_map_names _ (mem_keysOf_of_valuesAt hvalues)
  have hway : OnlyRecords q rs := fun q' hq' => (h.on_way hq').2
  rw [record_mergeSamples_eq, Json.at?_append, at?_mergedRecord hway hne, Option.bind_some,
    Json.record?_obj, Option.bind_some, hlookup, mergedValue_arrays harrays, itemsAlong,
    valuesAlong_concat]

/-- Merging leaves a value set of a kind for a path exactly if the items seen there are closed, and
one at most.  It holds one item of each class, in the order in which the classes are first seen, and
these are the items that the merged record has at the path. -/
theorem valueSets_mergeSamples (rs : List Record) :
    let merged := mergeSamples (rs.map Json.obj)
    (∀ p kind, (∃ v ∈ merged.valueSets, v.path = p ∧ v.kind = kind) ↔ ClosedAt rs p kind) ∧
      (merged.valueSets.map ValueSet.path).Nodup ∧
      ∀ v ∈ merged.valueSets, Representatives (itemsAlong v.path rs) v.values ∧
        merged.record.at? v.path = some (.arr v.values) := by
  intro merged
  have hmem : ∀ v, v ∈ merged.valueSets ↔ ∃ p kind, ClosedAt rs p kind ∧
      v = ⟨p, kind, distinctBy Json.canonical (itemsAlong p rs)⟩ := by
    intro v
    show v ∈ (mergeSamples (rs.map Json.obj)).valueSets ↔ _
    rw [valueSets_mergeSamples_eq, mem_valueSets_iff (Nat.le_refl _)]
    rfl
  refine ⟨fun p kind => ⟨?_, fun h => ?_⟩, ?_, fun v hv => ?_⟩
  · rintro ⟨v, hv, rfl, rfl⟩
    obtain ⟨p, kind, h, rfl⟩ := (hmem v).mp hv
    exact h
  · exact ⟨_, (hmem _).mpr ⟨p, kind, h, rfl⟩, rfl, rfl⟩
  · exact nodup_paths_mergeSamples rs
  · obtain ⟨p, kind, h, rfl⟩ := (hmem v).mp hv
    exact ⟨representatives_distinctBy _, h.at?_merged⟩

/-- below `s` one sample alone has a record, and under `m` stand a number and a truth value -/
example : (mergeSamples [
    .obj [("r", .obj [("t", .arr [.str "b", .str "a"])]), ("m", .arr [.int 1])],
    .obj [("s", .obj [("t", .arr [.str "c"])]), ("m", .arr [.bool true])],
    .obj [("r", .obj [("t", .arr [.str "a"])])]]).valueSets.map ValueSet.path =
    [["r", "t"]] := by decide

end SampleTypes
