import SampleTypes.Sample.ValueSet

/-!
# Merging sample records

Several records of one kind are merged into one that shows as much as they do together.

* `valuesAt k rs`      the values of a field in the records that have it;
* `mergeValues`        arrays are united, records merged, and of anything else the first value
                       that is not null is taken;
* `mergeRecords n`     the merged record and the value sets met, to `n` levels of records;
* `mergeSamples`       the same for all samples: one sample stays as it is;
* `nullablePaths`      the paths at which some records hold null and others do not.
-/

namespace SampleTypes

/-- the keys of some records, in the order of their first appearance -/
def keysOf (rs : List Record) : List String := distinct (rs.flatMap Fields.names)

/-- the values of a field in the records that have it -/
def valuesAt (k : String) (rs : List Record) : List Json := rs.filterMap (·.lookup k)

/-- the first value that is not null, or the first one of all -/
def firstKnown (values : List Json) : Json :=
  match values.find? (!·.isNull) with
  | some v => v
  | none => values.headD .null

mutual

/-- how deep records stand inside records -/
def recordDepth : Json → Nat
  | .obj fs => fieldsDepth fs + 1
  | _ => 0

def fieldsDepth : List (String × Json) → Nat
  | [] => 0
  | (_, v) :: fs => max (recordDepth v) (fieldsDepth fs)

end

/-- levels enough for merging the records -/
def levels (rs : List Record) : Nat := rs.foldr (fun r n => max (fieldsDepth r + 1) n) 0

/-- a merged record and the value sets met on the way -/
structure Merged where
  record : Json
  valueSets : List ValueSet

/-- the values of one field merged; `below` merges them if all are records -/
def mergeValues (below : List Record → Record × List ValueSet) (path : Path)
    (values : List Json) : Json × List ValueSet :=
  if values.all Json.isArray then
    let items := unionItems (values.filterMap Json.items?)
    (.arr items, (ValueSet.of? path items).toList)
  else if values.all Json.isRecord then
    let (r, sets) := below (values.filterMap Json.record?)
    (.obj r, sets)
  else (firstKnown values, [])

/-- records merged field by field; a single record stays as it is -/
def mergeRecords : Nat → Path → List Record → Record × List ValueSet
  | _, _, [r] => (r, [])
  | 0, _, _ => ([], [])
  | n + 1, path, rs =>
    let merged := (keysOf rs).map fun k =>
      (k, mergeValues (mergeRecords n (path ++ [k])) (path ++ [k]) (valuesAt k rs))
    (merged.map fun (k, v, _) => (k, v), merged.flatMap fun (_, _, sets) => sets)

/-- the samples merged; a single sample, of whatever kind, stays as it is -/
def mergeSamples : List Json → Merged
  | [] => ⟨.obj [], []⟩
  | [v] => ⟨v, []⟩
  | vs =>
    let rs := vs.filterMap Json.record?
    let (r, sets) := mergeRecords (levels rs) [] rs
    ⟨.obj r, sets⟩

/-- whether some of the values are null and others are not -/
def isMixed (values : List Json) : Bool :=
  values.any Json.isNull && values.any (!·.isNull)

/-- the paths below `path` at which some records hold null and others do not -/
def nullableBelow : Nat → Path → List Record → List Path
  | 0, _, _ => []
  | n + 1, path, rs =>
    if rs.length < 2 then []
    else (keysOf rs).flatMap fun k =>
      let values := valuesAt k rs
      if isMixed values then [path ++ [k]]
      else if values.all Json.isRecord then
        nullableBelow n (path ++ [k]) (values.filterMap Json.record?)
      else []

/-- the paths at which some samples hold null and others do not -/
def nullablePaths (vs : List Json) : List Path :=
  let rs := vs.filterMap Json.record?
  nullableBelow (levels rs) [] rs

theorem keysOf_nil : keysOf [] = [] := rfl

theorem mem_keysOf {k : String} {rs : List Record} :
    k ∈ keysOf rs ↔ ∃ r ∈ rs, k ∈ Fields.names r := by
  simp [keysOf, mem_distinct, List.mem_flatMap]

theorem nodup_keysOf (rs : List Record) : (keysOf rs).Nodup := nodup_distinct _

theorem valuesAt_append (k : String) (rs ss : List Record) :
    valuesAt k (rs ++ ss) = valuesAt k rs ++ valuesAt k ss := by
  simp [valuesAt, List.filterMap_append]

end SampleTypes
