import SampleTypes.Proofs.Sample.Along

/-!
# Where null was seen

Three walks go their own ways and agree on where null was seen: the search for such paths goes down
as long as there is nothing but records, merging takes a value that is not null, and inference marks
the fields at these paths.

* `NullSeen rs p`           some samples have null at the path, others do not, and all that have
                            something on the way there have records;
* `mem_nullableBelow_iff`   the search finds these paths;
* `NullSeen.merged`         merging puts a value there that is not null;
* `s.at? p`                 the shape that a path of keys leads to;
* `isNullable_shapeAt_iff`  inference marks the fields at these paths and no others;
* `nullablePaths_agree`     the main statement.
-/

namespace SampleTypes

/-- the samples have null and something else at the path, and only records on the way there -/
structure NullSeen (rs : List Record) (p : Path) : Prop where
  way : ∀ q, q <+: p → q ≠ p → ∀ v ∈ valuesAlong q rs, v.isRecord = true
  null : ∃ v ∈ valuesAlong p rs, v.isNull = true
  known : ∃ v ∈ valuesAlong p rs, v.isNull = false

theorem isMixed_iff {values : List Json} : isMixed values = true ↔
    (∃ v ∈ values, v.isNull = true) ∧ ∃ v ∈ values, v.isNull = false := by
  simp [isMixed]

theorem not_all_records_of_null {values : List Json} (h : ∃ v ∈ values, v.isNull = true) :
    ¬ ∀ v ∈ values, v.isRecord = true := by
  obtain ⟨v, hv, hn⟩ := h
  intro hr
  have hrecord := hr v hv
  cases v with
  | null => exact Bool.noConfusion hrecord
  | _ => simp [Json.isNull] at hn

theorem not_all_arrays_of_null {values : List Json} (h : ∃ v ∈ values, v.isNull = true) :
    ¬ ∀ v ∈ values, v.isArray = true := by
  obtain ⟨v, hv, hn⟩ := h
  intro ha
  have harray := ha v hv
  cases v with
  | null => exact Bool.noConfusion harray
  | _ => simp [Json.isNull] at hn

section
variable {rs : List Record} {k : String} {p : Path}

/-- samples are not null themselves -/
theorem not_nullSeen_nil (rs : List Record) : ¬ NullSeen rs [] := fun h =>
  not_all_records_of_null h.null (onlyRecords_nil rs [] (List.prefix_refl []))

theorem nullSeen_single : NullSeen rs [k] ↔ isMixed (valuesAt k rs) = true := by
  rw [isMixed_iff, ← valuesAlong_single]
  constructor
  · exact fun h => ⟨h.null, h.known⟩
  · rintro ⟨hnull, hknown⟩
    refine ⟨fun q hq hne => ?_, hnull, hknown⟩
    cases q with
    | nil => exact onlyRecords_nil rs [] (List.prefix_refl [])
    | cons j q =>
      obtain ⟨rfl, hnil⟩ := List.cons_prefix_cons.mp hq
      exact absurd (List.prefix_nil.mp hnil ▸ rfl) hne

theorem NullSeen.records (h : NullSeen rs (k :: p)) (hp : p ≠ []) :
    ∀ v ∈ valuesAt k rs, v.isRecord = true := by
  have hne : [k] ≠ k :: p := fun e => hp (List.cons.inj e).2.symm
  rw [← valuesAlong_single]
  exact h.way [k] (List.prefix_append [k] p) hne

/-- null was seen further down if it was in the records of one field, and nothing but records
stands there -/
theorem nullSeen_cons (hr : ∀ v ∈ valuesAt k rs, v.isRecord = true) :
    NullSeen rs (k :: p) ↔ NullSeen (recordsAt k rs) p := by
  have hvalues := valuesAlong_of_records hr
  constructor
  · intro h
    refine ⟨fun q hq hne => ?_, hvalues p ▸ h.null, hvalues p ▸ h.known⟩
    rw [← hvalues]
    exact h.way (k :: q) ((List.prefix_cons_inj k).mpr hq) fun e => hne (List.cons.inj e).2
  · intro h
    refine ⟨fun q hq hne => ?_, (hvalues p).symm ▸ h.null, (hvalues p).symm ▸ h.known⟩
    cases q with
    | nil => exact onlyRecords_nil rs [] (List.prefix_refl [])
    | cons j q =>
      obtain ⟨rfl, hqp⟩ := List.cons_prefix_cons.mp hq
      rw [hvalues]
      exact h.way q hqp fun e => hne (e ▸ rfl)

theorem NullSeen.mem_keysOf (h : NullSeen rs (k :: p)) : k ∈ keysOf rs := by
  obtain ⟨v, hv, _⟩ := h.null
  rw [valuesAlong_cons] at hv
  obtain ⟨w, hw, _⟩ := List.mem_filterMap.mp hv
  exact mem_keysOf_of_valuesAt (List.ne_nil_of_mem hw)

/-- which samples there are counts, not in what order -/
theorem NullSeen.congr {ss : List Record} (hs : ∀ r, r ∈ ss ↔ r ∈ rs) :
    NullSeen ss p ↔ NullSeen rs p := by
  have hmem : ∀ q v, v ∈ valuesAlong q ss ↔ v ∈ valuesAlong q rs := by
    intro q v
    rw [valuesAlong, valuesAlong, List.mem_filterMap, List.mem_filterMap]
    simp only [hs]
  constructor
  · rintro ⟨hway, hnull, hknown⟩
    simp only [hmem] at hway hnull hknown
    exact ⟨hway, hnull, hknown⟩
  · rintro ⟨hway, hnull, hknown⟩
    simp only [← hmem] at hway hnull hknown
    exact ⟨hway, hnull, hknown⟩

end

/-! ## the search -/

section
variable {n : Nat} {rs : List Record} {path q : Path} {k : String}

/-- the paths found from one field on, if those in the records of the field are found -/
theorem mem_nullableAt_iff
    (hbelow : ∀ base : Path, q ∈ nullableBelow n base (recordsAt k rs) ↔
      ∃ p, q = base ++ p ∧ NullSeen (recordsAt k rs) p) :
    q ∈ nullableAt n path rs k ↔ ∃ p, q = path ++ k :: p ∧ NullSeen rs (k :: p) := by
  rw [nullableAt]
  by_cases hmixed : isMixed (valuesAt k rs) = true
  · rw [if_pos hmixed, List.mem_singleton]
    constructor
    · rintro rfl
      exact ⟨[], rfl, nullSeen_single.mpr hmixed⟩
    · rintro ⟨p, rfl, h⟩
      have hp : p = [] := by
        by_contra hp
        exact not_all_records_of_null (isMixed_iff.mp hmixed).1 (h.records hp)
      rw [hp]
  rw [if_neg hmixed]
  have hne : ∀ p, NullSeen rs (k :: p) → p ≠ [] := by
    rintro p h rfl
    exact hmixed (nullSeen_single.mp h)
  by_cases hr : (valuesAt k rs).all Json.isRecord = true
  · rw [if_pos hr, hbelow]
    rw [List.all_eq_true] at hr
    constructor
    · rintro ⟨p, rfl, h⟩
      exact ⟨p, List.append_assoc path [k] p, (nullSeen_cons hr).mpr h⟩
    · rintro ⟨p, rfl, h⟩
      exact ⟨p, (List.append_assoc path [k] p).symm, (nullSeen_cons hr).mp h⟩
  · rw [if_neg hr]
    refine ⟨fun h => absurd h List.not_mem_nil, ?_⟩
    rintro ⟨p, _, h⟩
    exact absurd (List.all_eq_true.mpr (h.records (hne p h))) hr

/-- the search, to levels enough, finds the paths at which null was seen -/
theorem mem_nullableBelow_iff (hn : levels rs ≤ n) :
    q ∈ nullableBelow n path rs ↔ ∃ p, q = path ++ p ∧ NullSeen rs p := by
  induction n generalizing path rs with
  | zero =>
    obtain rfl := eq_nil_of_levels_eq_zero hn
    rw [nullableBelow]
    refine ⟨fun h => absurd h List.not_mem_nil, ?_⟩
    rintro ⟨p, _, h⟩
    obtain ⟨v, hv, _⟩ := h.null
    exact absurd hv List.not_mem_nil
  | succ n ih =>
    have hfield : ∀ k, q ∈ nullableAt n path rs k ↔
        ∃ p, q = path ++ k :: p ∧ NullSeen rs (k :: p) :=
      fun k => mem_nullableAt_iff fun base => ih (levels_recordsAt hn k)
    rw [nullableBelow_succ, List.mem_flatMap]
    constructor
    · rintro ⟨k, _, hq⟩
      obtain ⟨p, rfl, h⟩ := (hfield k).mp hq
      exact ⟨k :: p, rfl, h⟩
    · rintro ⟨p, rfl, h⟩
      cases p with
      | nil => exact absurd h (not_nullSeen_nil rs)
      | cons k p => exact ⟨k, h.mem_keysOf, (hfield k).mpr ⟨p, rfl, h⟩⟩

end

theorem mem_nullablePaths_iff {rs : List Record} {p : Path} :
    p ∈ nullablePaths (rs.map Json.obj) ↔ NullSeen rs p := by
  show p ∈ nullableBelow (levels (samplesOf (rs.map Json.obj))) [] (samplesOf (rs.map Json.obj)) ↔ _
  rw [samplesOf_map_obj, mem_nullableBelow_iff (Nat.le_refl _)]
  constructor
  · rintro ⟨q, rfl, h⟩
    exact h
  · exact fun h => ⟨p, rfl, h⟩

/-! ## merging -/

/-- where null was seen, merging puts a value that is not null -/
theorem NullSeen.merged {rs : List Record} {p : Path} (h : NullSeen rs p) :
    ∃ v, (mergeSamples (rs.map Json.obj)).record.at? p = some v ∧ v.isNull = false := by
  rcases List.eq_nil_or_concat p with rfl | ⟨q, k, rfl⟩
  · exact absurd h (not_nullSeen_nil rs)
  rw [List.concat_eq_append] at h ⊢
  have hway : OnlyRecords q rs := by
    intro q' hq'
    refine h.way q' (hq'.trans (List.prefix_append q [k])) ?_
    rintro rfl
    exact ne_of_below_field hq' rfl
  have hnull := h.null
  have hknown := h.known
  rw [valuesAlong_concat] at hnull hknown
  have hvalues : valuesAt k (recordsAlong q rs) ≠ [] := by
    obtain ⟨v, hv, _⟩ := hnull
    exact List.ne_nil_of_mem hv
  have hne : valuesAlong q rs ≠ [] := by
    intro e
    rw [recordsAlong, e] at hvalues
    exact hvalues rfl
  obtain ⟨v, hv, hs⟩ := lookup_mergedRecord hvalues
  have hfirst : v = firstKnown (valuesAt k (recordsAlong q rs)) :=
    hs.other (not_all_arrays_of_null hnull) (not_all_records_of_null hnull)
  refine ⟨v, ?_, hfirst ▸ isNull_firstKnown hknown⟩
  rw [record_mergeSamples_eq, Json.at?_append, at?_mergedRecord hway hne]
  exact hv

/-! ## inference -/

/-- the shape that a path of keys leads to through fields -/
def Shape.at? : Path → Shape → Option Shape
  | [], s => some s
  | k :: p, s => (s.fields.lookup k).bind (Shape.at? p)

namespace Infer

section
variable {s : Settings} {base p : Path} {k : String} {v w : Json} {f : Shape}

theorem isNullable_arrayShape (ss : List Shape) : (arrayShape ss).isNullable = false := by
  rw [arrayShape]
  cases Elements.of? ss with
  | none => rfl
  | some e =>
    show e.shape.isNullable = false
    rw [Elements.shape.eq_def]
    split <;> rfl

/-- a value does not know whether null was seen in its place -/
theorem isNullable_shapeAt (s : Settings) (path : Path) (v : Json) :
    (shapeAt s path v).isNullable = false := by
  induction path, v using Infer.induction with
  | deep path v hd => rw [shapeAt_deep hd]; rfl
  | leaf path v hd hv =>
    rw [shapeAt_leaf hd hv, leafShape]
    split <;> rfl
  | empty path hd => rw [shapeAt_empty hd]; rfl
  | pairs path xs hd hne hp => rw [shapeAt_pairs hd hne hp]
  | items path xs hd hne hp => rw [shapeAt_items hd hne hp, isNullable_arrayShape]
  | record path fs hd => rw [shapeAt_record hd]

theorem isNullable_fieldShape (path : Path) (v w : Json) :
    (fieldShape s path v (shapeAt s path w)).isNullable =
      (!v.isNull && s.nullablePaths.contains path) := by
  rw [fieldShape]
  cases !v.isNull && s.nullablePaths.contains path with
  | true => rfl
  | false => exact isNullable_shapeAt s path w

theorem fields_fieldShape (path : Path) (v : Json) (f : Shape) :
    (fieldShape s path v f).fields = f.fields := by
  rw [fieldShape]
  split <;> rfl

/-- a path leads from the shape of a record to that of a field, unless the record is too deep -/
theorem at?_shapeAt_cons (h : ¬ maxDepth < base.length) {fs : Record} (hv : fs.lookup k = some v)
    (p : Path) : (shapeAt s base (.obj fs)).at? (k :: p) =
      (fieldShape s (base ++ [k]) v (shapeAt s (base ++ [k]) v)).at? p := by
  rw [shapeAt_record h, Shape.at?, lookup_fieldShapesAt, hv]
  rfl

theorem at?_shapeAt_deep (h : maxDepth < base.length) (v : Json) (k : String) (p : Path) :
    (shapeAt s base v).at? (k :: p) = none := by
  rw [shapeAt_deep h]
  rfl

theorem at?_fieldShape (path : Path) (v : Json) (f : Shape) (k : String) (p : Path) :
    (fieldShape s path v f).at? (k :: p) = f.at? (k :: p) := by
  rw [Shape.at?, Shape.at?, fields_fieldShape]

/-- in the shape of a value a field that holds anything but null is marked if its path is a nullable
one, and no other field is -/
theorem isNullable_shapeAt_cons (hw : v.at? (k :: p) = some w)
    (hf : (shapeAt s base v).at? (k :: p) = some f) :
    f.isNullable = (!w.isNull && s.nullablePaths.contains (base ++ k :: p)) := by
  induction p generalizing base v k with
  | nil =>
    obtain ⟨fs, u, rfl, hu, hw⟩ := Json.exists_of_at?_cons hw
    obtain rfl : u = w := Option.some.inj hw
    by_cases hd : maxDepth < base.length
    · simp [at?_shapeAt_deep hd] at hf
    · rw [at?_shapeAt_cons hd hu] at hf
      obtain rfl := Option.some.inj hf
      exact isNullable_fieldShape _ _ _
  | cons j p ih =>
    obtain ⟨fs, u, rfl, hu, hw⟩ := Json.exists_of_at?_cons hw
    by_cases hd : maxDepth < base.length
    · simp [at?_shapeAt_deep hd] at hf
    · rw [at?_shapeAt_cons hd hu, at?_fieldShape] at hf
      rw [ih hw hf, List.append_assoc]
      rfl

/-- every value that a path of keys leads to has its shape in the tree, down to the depth of the
walk -/
theorem exists_at?_shapeAt (hw : v.at? p = some w)
    (hlen : base.length + p.length ≤ maxDepth + 1) : ∃ f, (shapeAt s base v).at? p = some f := by
  induction p generalizing base v with
  | nil => exact ⟨_, rfl⟩
  | cons k p ih =>
    obtain ⟨fs, u, rfl, hu, hw⟩ := Json.exists_of_at?_cons hw
    rw [List.length_cons] at hlen
    have hd : ¬ maxDepth < base.length := by omega
    have hbelow : (base ++ [k]).length + p.length ≤ maxDepth + 1 := by
      rw [List.length_append, List.length_singleton]
      omega
    rw [at?_shapeAt_cons hd hu]
    cases p with
    | nil => exact ⟨_, rfl⟩
    | cons j p =>
      rw [at?_fieldShape]
      exact ih hw hbelow

end

end Infer

/-- for the merged record exactly the fields are marked at whose paths null was seen -/
theorem isNullable_shapeAt_iff {rs : List Record} {s : Settings}
    (hs : s.nullablePaths = nullablePaths (rs.map Json.obj)) {p : Path} {v : Json} {f : Shape}
    (hv : (mergeSamples (rs.map Json.obj)).record.at? p = some v)
    (hf : (Infer.shapeAt s [] (mergeSamples (rs.map Json.obj)).record).at? p = some f) :
    f.isNullable = true ↔ NullSeen rs p := by
  cases p with
  | nil =>
    obtain rfl := Option.some.inj hf
    rw [Infer.isNullable_shapeAt]
    exact iff_of_false Bool.false_ne_true (not_nullSeen_nil rs)
  | cons k p =>
    rw [Infer.isNullable_shapeAt_cons hv hf, hs, ← mem_nullablePaths_iff]
    constructor
    · intro h
      exact List.contains_iff_mem.mp (Bool.and_eq_true_iff.mp h).2
    · intro hp
      -- what merging puts there is not null
      obtain ⟨w, hw, hn⟩ := (mem_nullablePaths_iff.mp hp).merged
      obtain rfl : v = w := Option.some.inj (hv.symm.trans hw)
      have hcontains : (nullablePaths (rs.map Json.obj)).contains ([] ++ k :: p) = true :=
        List.contains_iff_mem.mpr hp
      rw [hn, hcontains]
      rfl

/-- The paths that the search finds are those at which null was seen in some samples, in whatever
order the samples are.  Merging puts a value that is not null at each of them.  Of the fields in the
tree that is inferred for the merged record, exactly those at these paths are marked, and every
path that leads through records leads to a field, down to the depth of the walk. -/
theorem nullablePaths_agree (rs : List Record) (a : Affixes) (progress : Progress) :
    let paths := nullablePaths (rs.map Json.obj)
    let merged := (mergeSamples (rs.map Json.obj)).record
    let shape := (Infer.infer ⟨a, paths⟩ [] progress merged).1
    (∀ p, p ∈ paths ↔ NullSeen rs p) ∧
      (∀ ss : List Record, (∀ r, r ∈ ss ↔ r ∈ rs) →
        ∀ p, p ∈ nullablePaths (ss.map Json.obj) ↔ p ∈ paths) ∧
      (∀ p ∈ paths, ∃ v, merged.at? p = some v ∧ v.isNull = false) ∧
      (∀ p v f, merged.at? p = some v → shape.at? p = some f →
        (f.isNullable = true ↔ p ∈ paths)) ∧
      ∀ p v, merged.at? p = some v → p.length ≤ maxDepth + 1 → ∃ f, shape.at? p = some f := by
  intro paths merged shape
  have hpaths : ∀ p, p ∈ paths ↔ NullSeen rs p := fun p => mem_nullablePaths_iff
  have hshape : shape = Infer.shapeAt ⟨a, paths⟩ [] merged := Infer.shape_infer _ _ _ _
  refine ⟨hpaths, fun ss hs p => ?_, fun p hp => ?_, fun p v f hv hf => ?_, fun p v hv hlen => ?_⟩
  · rw [hpaths, mem_nullablePaths_iff]
    exact NullSeen.congr hs
  · exact ((hpaths p).mp hp).merged
  · rw [hshape] at hf
    rw [hpaths]
    exact isNullable_shapeAt_iff rfl hv hf
  · rw [hshape]
    refine Infer.exists_at?_shapeAt hv ?_
    rw [List.length_nil, Nat.zero_add]
    exact hlen

/-- below `m` null does not count, since one sample has a number there -/
example : nullablePaths [
    .obj [("r", .obj [("x", .null)]), ("m", .obj [("x", .null)])],
    .obj [("m", .int 3)],
    .obj [("r", .obj [("x", .int 1)]), ("m", .obj [("x", .int 1)])]] = [["r", "x"]] := by decide

end SampleTypes
