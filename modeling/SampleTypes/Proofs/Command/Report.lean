import SampleTypes.Command.Schema
import SampleTypes.Proofs.Sample.Saved
import SampleTypes.Proofs.Sample.ValueSets
import SampleTypes.Proofs.Shape.Expr

/-!
# The value sets of a report

The report has a member for each dotted path, and of the value sets with one dotted path it has the
last.  A dotted path does not tell a point between two keys from a point in a key, so it tells paths
apart as far as the pieces between all these points do.

* `points p`               the pieces of the keys of a path, where each key is cut at its points;
* `dotted_eq_iff`          paths with one dotted form;
* `ToldApart`              value sets that the dotted forms tell apart;
* `members_reported`       the members for some value sets;
* `reported_value_sets`    the main statement.
-/

namespace SampleTypes

open Json (joinWith)

/-! ## dotted paths -/

/-- the pieces of the keys of a path, where each key is cut at its points -/
def points (p : Path) : List (List Char) := p.flatMap fun k => Text.splitAt '.' k.toList

theorem splitAt_dotted {p : Path} (hp : p ≠ []) :
    Text.splitAt '.' (Shape.dotted p).toList = points p := by
  have hne : p.map String.toList ≠ [] := by simpa using hp
  have hsep : ".".toList = ['.'] := by decide
  rw [Shape.dotted, TypeExpr.toList_joinTexts, hsep, Text.splitAt_joinWith_flatMap '.' hne,
    List.flatMap_map, points]

/-- two paths have one dotted form exactly if their keys have the same pieces -/
theorem dotted_eq_iff {p q : Path} (hp : p ≠ []) (hq : q ≠ []) :
    Shape.dotted p = Shape.dotted q ↔ points p = points q := by
  rw [← splitAt_dotted hp, ← splitAt_dotted hq]
  constructor
  · intro h
    rw [h]
  · intro h
    have hjoin := congrArg (joinWith ['.']) h
    rw [Text.joinWith_splitAt, Text.joinWith_splitAt] at hjoin
    exact String.toList_inj.mp hjoin

/-- keys without points are the pieces themselves -/
theorem points_of_notMem {p : Path} (h : ∀ k ∈ p, '.' ∉ k.toList) :
    points p = p.map String.toList := by
  induction p with
  | nil => rfl
  | cons k p ih =>
    obtain ⟨hk, hp⟩ := List.forall_mem_cons.mp h
    rw [points, List.flatMap_cons, Text.splitAt_of_notMem hk, ← points, ih hp]
    rfl

/-! ## members -/

/-- a value set as the report shows it -/
def ValueSet.entry (v : ValueSet) : Json :=
  .obj [("kind", .str v.kind.name), ("values", .arr v.values)]

/-- no two of the value sets have keys with the same pieces -/
def ToldApart (sets : List ValueSet) : Prop :=
  ∀ v ∈ sets, ∀ w ∈ sets, points v.path = points w.path → v = w

/-- `members` are what a report has for the value sets: one for each dotted path, and in it the last
of the value sets with that path -/
structure Reported (sets : List ValueSet) (members : List (String × Json)) : Prop where
  names : FirstSeen (sets.map ValueSet.dotted) (Fields.names members)
  last : ∀ before v after, sets = before ++ v :: after →
    (∀ w ∈ after, w.dotted ≠ v.dotted) → members.lookup v.dotted = some v.entry

/-- the members of a report -/
def membersOf (sets : List ValueSet) : List (String × Json) :=
  Fields.ofPairs (sets.map Command.Schema.valueSetReport)

variable {sets : List ValueSet}

theorem names_valueSetReports (sets : List ValueSet) :
    Fields.names (sets.map Command.Schema.valueSetReport) = sets.map ValueSet.dotted := by
  rw [Fields.names, List.map_map]
  rfl

theorem names_membersOf (sets : List ValueSet) :
    Fields.names (membersOf sets) = distinct (sets.map ValueSet.dotted) := by
  rw [membersOf, Fields.names_ofPairs, names_valueSetReports]

theorem members_reported (sets : List ValueSet) : Reported sets (membersOf sets) := by
  refine ⟨names_membersOf sets ▸ firstSeen_distinct _, fun before v after hsplit hlast => ?_⟩
  -- from behind, the value set is the first one with its dotted path
  have hlater : (after.map Command.Schema.valueSetReport).reverse.lookup v.dotted = none := by
    rw [List.lookup_eq_none_iff]
    intro p hp
    obtain ⟨w, hw, rfl⟩ := List.mem_map.mp (List.mem_reverse.mp hp)
    exact bne_iff_ne.mpr (hlast w hw).symm
  rw [membersOf, Fields.lookup_ofPairs, hsplit, List.map_append, List.map_cons,
    List.reverse_append, List.reverse_cons, List.append_assoc, List.lookup_append, hlater]
  exact List.lookup_cons_self

theorem length_membersOf_iff (sets : List ValueSet) :
    (membersOf sets).length = sets.length ↔ (sets.map ValueSet.dotted).Nodup := by
  have hnames := congrArg List.length (names_membersOf sets)
  rw [Fields.names, List.length_map] at hnames
  rw [hnames, ← length_distinct_eq_iff, List.length_map]

theorem membersOf_of_nodup (h : (sets.map ValueSet.dotted).Nodup) :
    membersOf sets = sets.map fun v => (v.dotted, v.entry) :=
  Fields.ofPairs_of_nodup (names_valueSetReports sets ▸ h)

section
variable (hpaths : (sets.map ValueSet.path).Nodup)
include hpaths

theorem nodup_dotted_iff (hne : ∀ v ∈ sets, v.path ≠ []) :
    (sets.map ValueSet.dotted).Nodup ↔ ToldApart sets := by
  rw [List.nodup_map_iff_inj_on hpaths.of_map]
  exact forall₂_congr fun v hv => forall₂_congr fun w hw => by
    rw [ValueSet.dotted, ValueSet.dotted, dotted_eq_iff (hne v hv) (hne w hw)]

theorem apart_of_notMem (h : ∀ v ∈ sets, ∀ k ∈ v.path, '.' ∉ k.toList) : ToldApart sets := by
  intro v hv w hw e
  rw [points_of_notMem (h v hv), points_of_notMem (h w hw)] at e
  have hpath : v.path = w.path :=
    List.map_injective_iff.mpr (fun _ _ => String.toList_inj.mp) e
  exact List.inj_on_of_nodup_map hpaths hv hw hpath

end

theorem path_ne_nil_of_mem_valueSets {rs : List Record} {v : ValueSet}
    (h : v ∈ (mergeSamples (rs.map Json.obj)).valueSets) : v.path ≠ [] := by
  rw [valueSets_mergeSamples_eq, mem_valueSets_iff (Nat.le_refl _)] at h
  obtain ⟨p, kind, hclosed, rfl⟩ := h
  rintro rfl
  exact not_closedAt_nil rs kind hclosed

/-! ## the command -/

namespace Command.Schema

/-- with `--json` the command prints its report, and does nothing else -/
theorem runOrder_eq {σ : Type} {s : Session σ} {o : Order} {rs : List Record}
    (hload : loadSamples s.disk (.ofText o.path) o.samples = .ok rs) (hjson : o.json = true) :
    runOrder s o =
      { shown := [.out ((report rs).indented ++ "\n")]
        stop := none, disk := s.disk, source := s.source } := by
  unfold runOrder
  rw [hload]
  show runOn s o rs = _
  unfold runOn
  rw [if_pos hjson]

/-- The command for a sample file prints a report of its records.  The report has a member for each
dotted path of the merged value sets, and in it the last of the value sets with this path.  Nothing
is lost exactly if no two value sets have keys that come to the same pieces when they are cut at
their points, as it is where no key holds a point. -/
theorem reported_value_sets {σ : Type} {s : Session σ} {o : Order} {rs : List Record}
    (hload : loadSamples s.disk (.ofText o.path) o.samples = .ok rs) (hjson : o.json = true) :
    let merged := mergeSamples (rs.map .obj)
    let sets := merged.valueSets
    ∃ members : List (String × Json),
      runOrder s o =
        { shown := [.out ((Json.obj [("sample_count", .int rs.length), ("record", merged.record),
            ("value_sets", .obj members)]).indented ++ "\n")]
          stop := none, disk := s.disk, source := s.source } ∧
      Reported sets members ∧ (members.length = sets.length ↔ ToldApart sets) ∧
      (ToldApart sets → members = sets.map fun v => (v.dotted, v.entry)) ∧
      ((∀ v ∈ sets, ∀ k ∈ v.path, '.' ∉ k.toList) → ToldApart sets) := by
  intro merged sets
  have hpaths := nodup_paths_mergeSamples rs
  have hapart : (sets.map ValueSet.dotted).Nodup ↔ ToldApart sets :=
    nodup_dotted_iff hpaths fun v hv => path_ne_nil_of_mem_valueSets hv
  exact ⟨membersOf sets, runOrder_eq hload hjson, members_reported sets,
    (length_membersOf_iff sets).trans hapart, fun h => membersOf_of_nodup (hapart.mpr h),
    apart_of_notMem hpaths⟩

/-- a session with some records in the file `s.json` -/
def savedSession (rs : List Record) : Session Unit :=
  { disk := { items := [(⟨["s.json"]⟩, .file (Text.utf8 (Json.text (.arr (rs.map .obj)))))] }
    env := [], source := () }

/-- the report on that file -/
def savedOrder : Order :=
  { path := "s.json", indexName := none, affixes := {}, samples := none, enums := false,
    json := true, output := none, overwrite := false }

theorem loadSamples_saved {rs : List Record} (hne : rs ≠ [])
    (h : ReadsBack (.arr (rs.map .obj))) :
    loadSamples (savedSession rs).disk (.ofText savedOrder.path) savedOrder.samples = .ok rs := by
  have hpath : Pathname.ofText savedOrder.path = ⟨0, ["s.json"]⟩ := rfl
  rw [hpath]
  exact loadSamples_list rfl hne h rfl

/-- two records with a value set beside another one below a record -/
theorem reported_value_sets_nested :
    let r : Record := [("a", .arr [.str "x"]), ("b", .obj [("c", .arr [.str "y"])])]
    let sets := (mergeSamples ([r, r].map .obj)).valueSets
    (loadSamples (savedSession [r, r]).disk (.ofText savedOrder.path) savedOrder.samples =
      .ok [r, r] ∧ savedOrder.json = true) ∧ sets.map ValueSet.path = [["a"], ["b", "c"]] ∧
      ∃ members, (runOrder (savedSession [r, r]) savedOrder).stop = none ∧
        Reported sets members ∧ members.length = 2 := by
  intro r sets
  have hload := loadSamples_saved (List.cons_ne_nil r [r]) rfl
  have hsets : sets.map ValueSet.path = [["a"], ["b", "c"]] := by decide
  have hcount : sets.length = 2 := by simpa using congrArg List.length hsets
  have hplain : ∀ v ∈ sets, ∀ k ∈ v.path, '.' ∉ k.toList := by
    intro v hv
    have hv : v.path ∈ [["a"], ["b", "c"]] := hsets ▸ List.mem_map_of_mem hv
    exact (by decide : ∀ p ∈ [["a"], ["b", "c"]], ∀ k ∈ p, '.' ∉ k.toList) _ hv
  obtain ⟨members, hrun, hreported, hlength, -, happart⟩ := reported_value_sets hload rfl
  refine ⟨⟨hload, rfl⟩, hsets, members, by rw [hrun], hreported, ?_⟩
  rw [hlength.mpr (happart hplain)]
  exact hcount

/-- The value sets at a key with a point and at the key below a record that it spells have one
dotted path, and the report shows one of them. -/
theorem value_set_hidden_by_point :
    let r : Record := [("a.b", .arr [.str "x"]), ("a", .obj [("b", .arr [.str "y"])])]
    loadSamples (savedSession [r, r]).disk (.ofText savedOrder.path) savedOrder.samples =
      .ok [r, r] ∧ savedOrder.json = true ∧
      (mergeSamples ([r, r].map .obj)).valueSets =
        [⟨["a.b"], .string, [.str "x"]⟩, ⟨["a", "b"], .string, [.str "y"]⟩] ∧
      runOrder (savedSession [r, r]) savedOrder =
        { shown := [.out ((Json.obj [("sample_count", .int 2), ("record", .obj r),
            ("value_sets", .obj [("a.b",
              .obj [("kind", .str "string"), ("values", .arr [.str "y"])])])]).indented ++ "\n")]
          stop := none, disk := (savedSession [r, r]).disk, source := () } := by
  intro r
  have hload := loadSamples_saved (List.cons_ne_nil r [r]) rfl
  have hmerged : mergeSamples ([r, r].map .obj) =
      ⟨.obj r, [⟨["a.b"], .string, [.str "x"]⟩, ⟨["a", "b"], .string, [.str "y"]⟩]⟩ := by rfl
  have hreport : report [r, r] = .obj [("sample_count", .int 2), ("record", .obj r),
      ("value_sets", .obj [("a.b",
        .obj [("kind", .str "string"), ("values", .arr [.str "y"])])])] := by
    rw [report, hmerged]
    rfl
  refine ⟨hload, rfl, by rw [hmerged], ?_⟩
  rw [runOrder_eq hload rfl, hreport]

end Command.Schema

end SampleTypes
