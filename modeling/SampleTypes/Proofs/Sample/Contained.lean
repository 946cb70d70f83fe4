import SampleTypes.Proofs.Sample.Levels

/-!
# A sample that shows nothing new

* `Json.isContained v w`   whether `w` shows all that `v` does: record by record, field by field,
                           and array by array, item by item;
* `Same.merged`            a record that stands alone is not told from its fields merged one by
                           one;
* `Same.contained`         nor are records from those with one more contained in one of them.
-/

namespace SampleTypes

namespace Json

mutual

/-- whether `w` shows all that `v` does -/
def isContained : Json → Json → Bool
  | .obj fs, .obj gs => fieldsContained gs fs
  | .arr xs, .arr ys => xs.all fun x => ys.any fun y => x.canonical == y.canonical
  | v, w => v.canonical == w.canonical

/-- whether all fields have one under the same key that shows as much -/
def fieldsContained (gs : Record) : List (String × Json) → Bool
  | [] => true
  | (k, v) :: fs =>
    (match gs.lookup k with
      | some w => isContained v w
      | none => false) && fieldsContained gs fs

end

theorem isContained_obj_iff {fs gs : Record} : isContained (.obj fs) (.obj gs) = true ↔
    ∀ p ∈ fs, ∃ w, gs.lookup p.1 = some w ∧ isContained p.2 w = true := by
  rw [isContained]
  induction fs with
  | nil => simp [fieldsContained]
  | cons p fs ih =>
    obtain ⟨k, v⟩ := p
    rw [fieldsContained, Bool.and_eq_true, ih, List.forall_mem_cons]
    refine and_congr_left' ?_
    cases hl : gs.lookup k <;> simp

theorem isContained_arr_iff {xs ys : List Json} : isContained (.arr xs) (.arr ys) = true ↔
    ∀ x ∈ xs, ∃ y ∈ ys, x.canonical = y.canonical := by
  rw [isContained]
  simp

/-- a value is contained in one of the same kind -/
theorem isContained_kinds {v w : Json} (h : isContained v w = true) :
    v.isNull = w.isNull ∧ v.isArray = w.isArray ∧ v.isRecord = w.isRecord := by
  rw [isContained.eq_def] at h
  split at h
  · exact ⟨rfl, rfl, rfl⟩
  · exact ⟨rfl, rfl, rfl⟩
  · have ha := alike_of_canonical_eq (beq_iff_eq.mp h)
    exact ⟨ha.isNull, ha.isArray, ha.isRecord⟩

theorem isContained_obj {v : Json} {gs : Record} (h : isContained v (.obj gs) = true) :
    ∃ fs, v = .obj fs := by
  have := (isContained_kinds h).2.2
  cases v with
  | obj fs => exact ⟨fs, rfl⟩
  | _ => simp [isRecord] at this

theorem isContained_arr {v : Json} {ys : List Json} (h : isContained v (.arr ys) = true) :
    ∃ xs, v = .arr xs := by
  have := (isContained_kinds h).2.1
  cases v with
  | arr xs => exact ⟨xs, rfl⟩
  | _ => simp [isArray] at this

end Json

/-! ## levels -/

theorem recordDepth_le_of_isContained {v w : Json} (h : v.isContained w = true) :
    recordDepth v ≤ recordDepth w := by
  induction v using Json.induction generalizing w with
  | obj fs ih =>
    cases w with
    | obj gs =>
      rw [recordDepth, recordDepth]
      refine Nat.succ_le_succ ?_
      replace h := Json.isContained_obj_iff.mp h
      induction fs with
      | nil => exact Nat.zero_le _
      | cons p fs ihs =>
        obtain ⟨k, v⟩ := p
        obtain ⟨u, hu, hv⟩ := h (k, v) (by simp)
        rw [fieldsDepth]
        refine Nat.max_le.mpr ⟨?_, ?_⟩
        · exact Nat.le_trans (ih (k, v) (by simp) hv)
            (recordDepth_le_of_mem (Fields.mem_of_lookup hu))
        · exact ihs (fun q hq => ih q (List.mem_cons_of_mem _ hq))
            fun q hq => h q (List.mem_cons_of_mem _ hq)
    | _ => exact absurd (Json.isContained_kinds h).2.2 (by simp [Json.isRecord])
  | _ => exact Nat.zero_le _

/-! ## the values of a field -/

/-- some record shows all that `r` does -/
def Shown (rs : List Record) (r : Record) : Prop :=
  ∃ t ∈ rs, (Json.obj r).isContained (.obj t) = true

/-- the values of a field are the same, or one more that is contained in one of them -/
theorem Shown.valuesAt_concat {rs : List Record} {r : Record} (h : Shown rs r) (k : String) :
    valuesAt k (rs ++ [r]) = valuesAt k rs ∨
      ∃ v w, valuesAt k (rs ++ [r]) = valuesAt k rs ++ [v] ∧ w ∈ valuesAt k rs ∧
        v.isContained w = true := by
  obtain ⟨t, ht, hr⟩ := h
  rw [valuesAt_append]
  cases hl : r.lookup k with
  | none => exact .inl (by simp [valuesAt, hl])
  | some v =>
    obtain ⟨w, hw, hv⟩ := Json.isContained_obj_iff.mp hr (k, v) (Fields.mem_of_lookup hl)
    exact .inr ⟨v, w, by simp [valuesAt, hl], mem_valuesAt ht hw, hv⟩

theorem Shown.keysOf_concat {rs : List Record} {r : Record} (h : Shown rs r) :
    keysOf (rs ++ [r]) = keysOf rs := by
  obtain ⟨t, ht, hr⟩ := h
  rw [keysOf, keysOf, List.flatMap_append, distinct, distinct]
  refine distinctBy_append_of_seen fun k hk => ⟨k, List.mem_flatMap.mpr ⟨t, ht, ?_⟩, rfl⟩
  rw [List.flatMap_singleton] at hk
  obtain ⟨p, hp, rfl⟩ := List.mem_map.mp hk
  obtain ⟨w, hw, _⟩ := Json.isContained_obj_iff.mp hr p hp
  exact Fields.mem_names_of_lookup hw

theorem all_append_of_mem {p : Json → Bool} {vs : List Json} {v w : Json} (hw : w ∈ vs)
    (h : p v = p w) : (vs ++ [v]).all p = vs.all p := by
  rw [List.all_append, List.all_cons, List.all_nil, Bool.and_true, h]
  cases hall : vs.all p with
  | true => rw [List.all_eq_true.mp hall w hw]; rfl
  | false => rfl

theorem any_append_of_mem {p : Json → Bool} {vs : List Json} {v w : Json} (hw : w ∈ vs)
    (h : p v = p w) : (vs ++ [v]).any p = vs.any p := by
  rw [List.any_append, List.any_cons, List.any_nil, Bool.or_false, h]
  cases hany : vs.any p with
  | true => rfl
  | false => rw [Bool.eq_false_iff.mpr fun hp => List.any_eq_false.mp hany w hw hp]; rfl

theorem firstKnown_append_of_mem {vs : List Json} {v w : Json} (hw : w ∈ vs)
    (h : v.isNull = w.isNull) : firstKnown (vs ++ [v]) = firstKnown vs := by
  have hhead : (vs ++ [v]).headD .null = vs.headD .null := by
    obtain ⟨x, vs, rfl⟩ := List.exists_cons_of_ne_nil (List.ne_nil_of_mem hw)
    rfl
  rw [firstKnown, firstKnown, List.find?_append, hhead]
  cases hf : vs.find? (!·.isNull) with
  | some x => rfl
  | none =>
    have hn : v.isNull = true := by
      have := List.find?_eq_none.mp hf w hw
      rw [h]
      simpa using this
    simp [hn]

section
variable {rs : List Record} {r : Record}

theorem Shown.all_isArray (h : Shown rs r) (k : String) :
    (valuesAt k (rs ++ [r])).all Json.isArray =
      (valuesAt k rs).all Json.isArray := by
  rcases h.valuesAt_concat k with e | ⟨v, w, e, hw, hv⟩
  · rw [e]
  · rw [e, all_append_of_mem hw (Json.isContained_kinds hv).2.1]

theorem Shown.all_isRecord (h : Shown rs r) (k : String) :
    (valuesAt k (rs ++ [r])).all Json.isRecord =
      (valuesAt k rs).all Json.isRecord := by
  rcases h.valuesAt_concat k with e | ⟨v, w, e, hw, hv⟩
  · rw [e]
  · rw [e, all_append_of_mem hw (Json.isContained_kinds hv).2.2]

theorem Shown.isMixed_concat (h : Shown rs r) (k : String) :
    isMixed (valuesAt k (rs ++ [r])) =
      isMixed (valuesAt k rs) := by
  rcases h.valuesAt_concat k with e | ⟨v, w, e, hw, hv⟩
  · rw [e]
  · have hn := (Json.isContained_kinds hv).1
    rw [e, isMixed, any_append_of_mem hw hn, any_append_of_mem hw (by rw [hn])]
    rfl

theorem Shown.firstKnown_concat (h : Shown rs r) (k : String) :
    firstKnown (valuesAt k (rs ++ [r])) =
      firstKnown (valuesAt k rs) := by
  rcases h.valuesAt_concat k with e | ⟨v, w, e, hw, hv⟩
  · rw [e]
  · rw [e, firstKnown_append_of_mem hw (Json.isContained_kinds hv).1]

/-- in a field that holds only records, there is one more at most, and it is shown by another -/
theorem Shown.recordsAt_concat (h : Shown rs r) {k : String}
    (hall : (valuesAt k rs).all Json.isRecord = true) :
    recordsAt k (rs ++ [r]) = recordsAt k rs ∨
      ∃ u, recordsAt k (rs ++ [r]) = recordsAt k rs ++ [u] ∧ Shown (recordsAt k rs) u := by
  rcases h.valuesAt_concat k with e | ⟨v, w, e, hw, hv⟩
  · exact .inl (by rw [recordsAt, e, recordsAt])
  · have hrec := List.all_eq_true.mp hall w hw
    cases w with
    | obj gs =>
      obtain ⟨fs, rfl⟩ := Json.isContained_obj hv
      refine .inr ⟨fs, ?_, gs, mem_recordsAt.mpr hw, hv⟩
      rw [recordsAt, e, List.filterMap_append]
      rfl
    | _ => simp [Json.isRecord] at hrec

/-- in a field that holds only arrays, all items were there before -/
theorem Shown.arraysAt_concat (h : Shown rs r) {k : String}
    (hall : (valuesAt k rs).all Json.isArray = true) :
    distinctBy Json.canonical (arraysAt k (rs ++ [r])).flatten =
      distinctBy Json.canonical (arraysAt k rs).flatten := by
  rcases h.valuesAt_concat k with e | ⟨v, w, e, hw, hv⟩
  · rw [arraysAt, e, arraysAt]
  · have harr := List.all_eq_true.mp hall w hw
    cases w with
    | arr ys =>
      obtain ⟨xs, rfl⟩ := Json.isContained_arr hv
      have he : arraysAt k (rs ++ [r]) = arraysAt k rs ++ [xs] := by
        rw [arraysAt, e, List.filterMap_append]
        rfl
      rw [he, List.flatten_append, List.flatten_singleton]
      refine distinctBy_append_of_seen fun x hx => ?_
      obtain ⟨y, hy, hxy⟩ := Json.isContained_arr_iff.mp hv x hx
      refine ⟨y, List.mem_flatten.mpr ⟨ys, ?_, hy⟩, hxy⟩
      exact List.mem_filterMap.mpr ⟨.arr ys, hw, rfl⟩
    | _ => simp [Json.isArray] at harr

/-- null is seen where it was before -/
theorem Shown.nullableBelow_concat (h : Shown rs r) (n : Nat) (path : Path) :
    nullableBelow n path (rs ++ [r]) = nullableBelow n path rs := by
  induction n generalizing path rs r with
  | zero => rfl
  | succ n ih =>
    rw [nullableBelow_succ, nullableBelow_succ, h.keysOf_concat]
    refine List.flatMap_congr fun k _ => ?_
    rw [nullableAt, nullableAt, h.isMixed_concat, h.all_isRecord]
    cases hall : (valuesAt k rs).all Json.isRecord with
    | false => rfl
    | true =>
      rcases h.recordsAt_concat hall with e | ⟨u, e, hu⟩
      · rw [e]
      · rw [e, ih hu]

theorem Shown.levels_concat (h : Shown rs r) : levels (rs ++ [r]) = levels rs := by
  obtain ⟨t, ht, hr⟩ := h
  have hd := recordDepth_le_of_isContained hr
  rw [recordDepth, recordDepth] at hd
  have hlt := levels_le_iff.mp (Nat.le_refl _) t ht
  rw [levels_append]
  refine Nat.max_eq_left (levels_le_iff.mpr fun u hu => ?_)
  obtain rfl := List.mem_singleton.mp hu
  omega

end

/-! ## merged records -/

namespace Infer

variable {s : Settings} {path : Path}

/-- a single value is not told from what merging makes of it -/
theorem Same.mergedAt_single {n : Nat} {r : Record} {k : String} {v : Json}
    (h : Nulls s (n + 1) path [r]) (hv : r.lookup k = some v) :
    Same s (path ++ [k]) v (mergedAt n path [r] k) := by
  have hvalues : valuesAt k [r] = [v] := by simp [valuesAt, hv]
  have hk : k ∈ keysOf [r] := mem_keysOf.mpr ⟨r, by simp, Fields.mem_names_of_lookup hv⟩
  cases v with
  | arr xs =>
    have ha : (valuesAt k [r]).all Json.isArray = true := by rw [hvalues]; rfl
    have hxs : arraysAt k [r] = [xs] := by rw [arraysAt, hvalues]; rfl
    rw [mergedAt_arrays ha, hxs, List.flatten_singleton]
    exact (Same.distinct (h.quietItems hk ha) xs).symm
  | obj fs =>
    have hfs : recordsAt k [r] = [fs] := by rw [recordsAt, hvalues]; rfl
    rw [mergedAt_records (by rw [hvalues]; rfl) (by rw [hvalues]; rfl), hfs, mergeRecords_single]
    exact Same.refl _
  | null | bool | int | float | str =>
    rw [mergedAt_other (by rw [hvalues]; rfl) (by rw [hvalues]; rfl), hvalues]
    exact Same.refl _

/-- a record that stands alone is not told from its fields merged one by one -/
theorem Same.merged {n : Nat} {rs : List Record} (h : Nulls s (n + 1) path rs)
    (hkeys : ∀ r ∈ rs, (Fields.names r).Nodup) :
    Same s path (.obj (mergeRecords (n + 1) path rs).1)
      (.obj ((keysOf rs).map fun k => (k, mergedAt n path rs k))) := by
  by_cases hlen : rs.length = 1
  · obtain ⟨r, rfl⟩ := List.length_eq_one_iff.mp hlen
    have hnodup := hkeys r (by simp)
    rw [mergeRecords_single, keysOf_single hnodup]
    nth_rewrite 1 [← Fields.map_lookup_names hnodup]
    refine Same.fields fun k hk => ?_
    obtain ⟨v, hv⟩ := Fields.exists_lookup_of_mem_names hk
    rw [hv]
    exact Same.mergedAt_single h hv
  · rw [mergeRecords_succ hlen]
    exact Same.refl _

/-- records are not told from those with one more that is contained in one of them -/
theorem Same.contained {n : Nat} {rs : List Record} {r : Record} (hr : Shown rs r)
    (h : Nulls s n path rs) (hn : levels rs ≤ n)
    (hkeys : ∀ t ∈ rs, (Json.obj t).keysDistinct = true) :
    Same s path (.obj (mergeRecords n path (rs ++ [r])).1) (.obj (mergeRecords n path rs).1) := by
  -- level by level: the records in a field are again some and one contained in one of them
  induction n generalizing path rs r with
  | zero =>
    obtain ⟨t, ht, _⟩ := hr
    exact absurd (levels_le_iff.mp hn t ht) (Nat.not_lt_zero _)
  | succ n ih =>
    -- `rs` may be a single record, which is not merged, while `rs ++ [r]` always is
    refine Same.trans ?_
      (Same.merged h fun t ht => Json.nodup_names_of_keysDistinct (hkeys t ht)).symm
    have hlen : (rs ++ [r]).length ≠ 1 := by
      obtain ⟨t, ht, _⟩ := hr
      have := List.length_pos_of_mem ht
      rw [List.length_append, List.length_singleton]
      omega
    rw [mergeRecords_succ hlen, hr.keysOf_concat]
    refine Same.fields fun k hk => ?_
    have harr := hr.all_isArray k
    have hrec := hr.all_isRecord k
    cases ha : (valuesAt k rs).all Json.isArray with
    | true =>
      rw [mergedAt_arrays (harr.trans ha), mergedAt_arrays ha, hr.arraysAt_concat ha]
      exact Same.refl _
    | false =>
      cases hall : (valuesAt k rs).all Json.isRecord with
      | true =>
        rw [mergedAt_records (harr.trans ha) (hrec.trans hall), mergedAt_records ha hall]
        rcases hr.recordsAt_concat hall with e | ⟨u, e, hu⟩
        · rw [e]
          exact Same.refl _
        · rw [e]
          refine ih hu (h.records k) (levels_recordsAt hn k) fun t ht => ?_
          obtain ⟨g, hg, hl⟩ := exists_of_mem_valuesAt (mem_recordsAt.mp ht)
          exact Json.keysDistinct_of_mem_fields (hkeys g hg) (Fields.mem_of_lookup hl)
      | false =>
        rw [mergedAt_other (harr.trans ha) (hrec.trans hall), mergedAt_other ha hall,
          hr.firstKnown_concat]
        exact Same.refl _

end Infer

end SampleTypes
