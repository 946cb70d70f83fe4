import SampleTypes.Proofs.Except
import SampleTypes.Proofs.Sample.Along

/-!
# Merging, if nothing is made up

Where a walk over the samples finds nothing to go on with, the definitions put a value in its
place: null for the first one of no values, nothing for what a walk that ran out of steps has not
seen.  Here the same walks fail in these places.  They do not fail for samples that are records,
or for a single sample of any kind, and then have the same results.

* `Fault`                                what a walk can fail at;
* `mergeRecords_eq`, `mergeSamples_eq`   merging does not fail;
* `nullableBelow_eq`, `nullablePaths_eq` nor does the search for paths at which null was seen.
-/

namespace SampleTypes.Strict

/-- what a walk can fail at -/
inductive Fault where
  /-- one of several samples is no record -/
  | noRecord
  /-- there is no first value of a field -/
  | noValue
  /-- there is no first pair, or it has no value -/
  | noPair
  /-- an array has no shape of a first item -/
  | noItem
  /-- a value is of none of the kinds that are told apart -/
  | unknownKind
  /-- a name that is to be declared is not registered -/
  | unregistered (name : String)
  /-- the steps allowed are used up -/
  | endless
  deriving DecidableEq, Repr

/-! ## the walks -/

def records (vs : List Json) : Except Fault (List Record) :=
  vs.mapM fun v => match v.record? with
    | some r => .ok r
    | none => .error .noRecord

/-- the first value that is not null, or the first one of all, which has to exist in any case -/
def firstKnown : List Json → Except Fault Json
  | [] => .error .noValue
  | first :: rest => .ok (((first :: rest).find? (!·.isNull)).getD first)

def mergeValues (below : List Record → Except Fault (Record × List ValueSet)) (path : Path)
    (values : List Json) : Except Fault (Json × List ValueSet) :=
  if values.all Json.isArray then
    let items := unionItems (values.filterMap Json.items?)
    .ok (.arr items, (ValueSet.of? path items).toList)
  else if values.all Json.isRecord then do
    let (r, sets) ← below (← records values)
    return (.obj r, sets)
  else do
    return (← firstKnown values, [])

def mergeField (below : List Record → Except Fault (Record × List ValueSet)) (path : Path)
    (rs : List Record) (k : String) : Except Fault (String × Json × List ValueSet) := do
  return (k, ← mergeValues below (path ++ [k]) (valuesAt k rs))

def mergeRecords : Nat → Path → List Record → Except Fault (Record × List ValueSet)
  | _, _, [r] => .ok (r, [])
  | 0, _, _ => .error .endless
  | n + 1, path, rs => do
    let merged ← (keysOf rs).mapM fun k => mergeField (mergeRecords n (path ++ [k])) path rs k
    return (merged.map fun (k, v, _) => (k, v), merged.flatMap fun (_, _, sets) => sets)

def mergeSamples : List Json → Except Fault Merged
  | [] => .ok ⟨.obj [], []⟩
  | [v] => .ok ⟨v, []⟩
  | vs => do
    let rs ← records vs
    let (r, sets) ← mergeRecords (levels rs) [] rs
    return ⟨.obj r, sets⟩

def nullableFrom (below : List Record → Except Fault (List Path)) (path : Path)
    (values : List Json) : Except Fault (List Path) :=
  if isMixed values then .ok [path]
  else if values.all Json.isRecord then do below (← records values)
  else .ok []

def nullableBelow : Nat → Path → List Record → Except Fault (List Path)
  | 0, _, rs => if rs.length < 2 then .ok [] else .error .endless
  | n + 1, path, rs =>
    if rs.length < 2 then .ok []
    else do
      let found ← (keysOf rs).mapM fun k =>
        nullableFrom (nullableBelow n (path ++ [k])) (path ++ [k]) (valuesAt k rs)
      return found.flatten

def nullablePaths (vs : List Json) : Except Fault (List Path) :=
  if vs.length < 2 then .ok []
  else do
    let rs ← records vs
    nullableBelow (levels rs) [] rs

/-! ## they do not fail -/

theorem records_map_obj (rs : List Record) : records (rs.map Json.obj) = .ok rs := by
  induction rs with
  | nil => rfl
  | cons r rs ih =>
    rw [records] at ih ⊢
    rw [List.map_cons, List.mapM_cons, ih]
    rfl

theorem records_eq {vs : List Json} (h : ∀ v ∈ vs, v.isRecord = true) :
    records vs = .ok (vs.filterMap Json.record?) := by
  have hrecords := records_map_obj (vs.filterMap Json.record?)
  rwa [map_obj_records h] at hrecords

theorem firstKnown_eq {values : List Json} (h : values ≠ []) :
    firstKnown values = .ok (SampleTypes.firstKnown values) := by
  obtain ⟨first, rest, rfl⟩ := List.exists_cons_of_ne_nil h
  rw [firstKnown, SampleTypes.firstKnown]
  cases (first :: rest).find? (!·.isNull) <;> rfl

section
variable {n : Nat} {path : Path} {rs : List Record} {k : String}

theorem mergeValues_eq {values : List Json} (hne : values ≠ [])
    {below : List Record → Record × List ValueSet}
    {strictBelow : List Record → Except Fault (Record × List ValueSet)}
    (h : values.filterMap Json.record? ≠ [] → strictBelow (values.filterMap Json.record?) =
      .ok (below (values.filterMap Json.record?))) :
    mergeValues strictBelow path values = .ok (SampleTypes.mergeValues below path values) := by
  rw [mergeValues, SampleTypes.mergeValues]
  by_cases ha : values.all Json.isArray = true
  · rw [if_pos ha, if_pos ha]
  rw [if_neg ha, if_neg ha]
  by_cases hr : values.all Json.isRecord = true
  · have hrecords := List.all_eq_true.mp hr
    rw [if_pos hr, if_pos hr, records_eq hrecords]
    show strictBelow _ >>= _ = _
    rw [h (records_ne_nil hne hrecords)]
    rfl
  · rw [if_neg hr, if_neg hr, firstKnown_eq hne]
    rfl

theorem mergeField_eq (hk : k ∈ keysOf rs) {below : List Record → Record × List ValueSet}
    {strictBelow : List Record → Except Fault (Record × List ValueSet)}
    (h : recordsAt k rs ≠ [] → strictBelow (recordsAt k rs) = .ok (below (recordsAt k rs))) :
    mergeField strictBelow path rs k =
      .ok (k, SampleTypes.mergeValues below (path ++ [k]) (valuesAt k rs)) := by
  rw [mergeField, mergeValues_eq (valuesAt_ne_nil hk) h]
  rfl

/-- with levels enough merging comes to an end: a field that is merged has values, and where they
are all records there is one to be merged -/
theorem mergeRecords_eq (hn : levels rs ≤ n) (hne : rs ≠ []) :
    mergeRecords n path rs = .ok (SampleTypes.mergeRecords n path rs) := by
  induction n generalizing path rs with
  | zero => exact absurd (eq_nil_of_levels_eq_zero hn) hne
  | succ n ih =>
    by_cases hlen : rs.length = 1
    · obtain ⟨r, rfl⟩ := List.length_eq_one_iff.mp hlen
      rw [mergeRecords, SampleTypes.mergeRecords]
    have hsingle : ∀ r, rs ≠ [r] := by
      rintro r rfl
      exact hlen rfl
    have hfields : ∀ k ∈ keysOf rs, mergeField (mergeRecords n (path ++ [k])) path rs k =
        .ok (k, SampleTypes.mergeValues (SampleTypes.mergeRecords n (path ++ [k])) (path ++ [k])
          (valuesAt k rs)) :=
      fun k hk => mergeField_eq hk (ih (levels_recordsAt hn k))
    rw [mergeRecords, SampleTypes.mergeRecords, mapM_eq_ok hfields]
    · rfl
    · exact hsingle
    · exact hsingle

theorem nullableFrom_eq {strictBelow : List Record → Except Fault (List Path)}
    (h : strictBelow (recordsAt k rs) =
      .ok (SampleTypes.nullableBelow n (path ++ [k]) (recordsAt k rs))) :
    nullableFrom strictBelow (path ++ [k]) (valuesAt k rs) = .ok (nullableAt n path rs k) := by
  rw [nullableFrom, nullableAt]
  by_cases hmixed : isMixed (valuesAt k rs) = true
  · rw [if_pos hmixed, if_pos hmixed]
  rw [if_neg hmixed, if_neg hmixed]
  by_cases hr : (valuesAt k rs).all Json.isRecord = true
  · rw [if_pos hr, if_pos hr, records_eq (List.all_eq_true.mp hr)]
    exact h
  · rw [if_neg hr, if_neg hr]

theorem nullableBelow_eq (hn : levels rs ≤ n) :
    nullableBelow n path rs = .ok (SampleTypes.nullableBelow n path rs) := by
  induction n generalizing path rs with
  | zero =>
    rw [eq_nil_of_levels_eq_zero hn]
    rfl
  | succ n ih =>
    by_cases hlen : rs.length < 2
    · rw [nullableBelow, if_pos hlen, nullableBelow_short _ _ hlen]
    have hfields : ∀ k ∈ keysOf rs, nullableFrom (nullableBelow n (path ++ [k])) (path ++ [k])
        (valuesAt k rs) = .ok (nullableAt n path rs k) :=
      fun k _ => nullableFrom_eq (ih (levels_recordsAt hn k))
    rw [nullableBelow, if_neg hlen, mapM_eq_ok hfields, nullableBelow_succ]
    rfl

end

section
variable {samples : List Json}

theorem mergeSamples_eq (h : (∀ v ∈ samples, v.isRecord = true) ∨ samples.length = 1) :
    mergeSamples samples = .ok (SampleTypes.mergeSamples samples) := by
  match samples, h with
  | [], _ => rfl
  | [v], _ => rfl
  | v :: w :: rest, h =>
    have hr : ∀ u ∈ v :: w :: rest, u.isRecord = true := h.resolve_right (by simp)
    have hne : (v :: w :: rest).filterMap Json.record? ≠ [] :=
      records_ne_nil (List.cons_ne_nil _ _) hr
    rw [mergeSamples, records_eq hr]
    · show mergeRecords _ [] _ >>= _ = _
      rw [mergeRecords_eq (Nat.le_refl _) hne]
      rfl
    all_goals simp

theorem nullablePaths_eq (h : (∀ v ∈ samples, v.isRecord = true) ∨ samples.length = 1) :
    nullablePaths samples = .ok (SampleTypes.nullablePaths samples) := by
  rw [nullablePaths, SampleTypes.nullablePaths]
  by_cases hlen : samples.length < 2
  · have hshort : (samples.filterMap Json.record?).length < 2 :=
      Nat.lt_of_le_of_lt (List.length_filterMap_le _ _) hlen
    rw [if_pos hlen, nullableBelow_short _ _ hshort]
  · have hr : ∀ v ∈ samples, v.isRecord = true := h.resolve_right (by omega)
    rw [if_neg hlen, records_eq hr]
    exact nullableBelow_eq (Nat.le_refl _)

end

end SampleTypes.Strict
