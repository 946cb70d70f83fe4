import SampleTypes.Proofs.Declaration.Declared
import SampleTypes.Proofs.Inference.Reordered
import SampleTypes.Proofs.Sample.Kept

/-!
# The declaration of the root record

The records below the merged one are declared before it, so a record below that gets the name of
the root takes it.  The declaration under this name is that of the first record that gets it, in
the order of the visits; it is that of the root if no record below gets it.

* `isNamed a n x`       whether a visited record gets the name `n`;
* `get?_eq_find?`       a name has the declaration of the first visited record that gets it;
* `plain_eq_hit_iff`    the keys that lead to the name of the root;
* `root_declared`       what the text declares under the name of the root.
-/

namespace SampleTypes

namespace Name

theorem fragment_eq_hit_iff (key : String) : fragment key = "Hit" ↔ pascalCase key = "Hit" := by
  rw [fragment]
  split
  · rename_i h
    rw [h]
    decide
  · rfl

theorem nested_eq_hit_iff (parent key : String) : nested parent key = "Hit" ↔
    pascalCase key = "Hit" ∧ parent ≠ "campground" ∧
      occursIn "Info".toList parent.toList = false := by
  rw [nested]
  by_cases hp : parent = "campground"
  · have hlong : "Campground" ++ fragment key ≠ "Hit" :=
      append_ne_of_head? (by decide) (by decide) _
    rw [if_pos hp]
    simp [hlong, hp]
  rw [if_neg hp]
  cases hi : occursIn "Info".toList parent.toList with
  | true =>
    have hend : fragment key ++ "Info" ≠ "Hit" := append_ne_of_getLast? (by decide) (by decide) _
    simp [hend]
  | false =>
    rw [if_neg (by decide), fragment_eq_hit_iff]
    simp [hp]

/-- the keys, last one first, that lead to a record with the name of the root -/
theorem plain_eq_hit_iff (keys : List String) : plain keys = "Hit" ↔
    keys = [] ∨ ∃ key rest, keys = key :: rest ∧ pascalCase key = "Hit" ∧
      ∀ parent, rest.head? = some parent →
        parent ≠ "campground" ∧ occursIn "Info".toList parent.toList = false := by
  match keys with
  | [] => simp [plain]
  | [key] =>
    show fragment key = "Hit" ↔ _
    rw [fragment_eq_hit_iff]
    simp
  | key :: parent :: rest =>
    show nested parent key = "Hit" ↔ _
    rw [nested_eq_hit_iff]
    simp

end Name

namespace Infer

/-- whether a visited record gets the name -/
def isNamed (a : Affixes) (n : String) : Path × Json → Bool
  | (path, .obj _) => Name.recordName a path == n
  | _ => false

theorem any_declaration? (s : Settings) (n : String) (x : Path × Json) :
    (declaration? s x).any (·.name == n) = isNamed s.affixes n x := by
  obtain ⟨path, v⟩ := x
  cases v <;> rfl

/-- a name has the declaration of the first visited record that gets it -/
theorem get?_eq_find? {s : Settings} {path : Path} {v : Json} (n : String) :
    (infer s path {} v).2.registry.get? n =
      ((visits path v).find? (isNamed s.affixes n)).bind (declaration? s) := by
  rw [get?_infer, List.find?_filterMap]
  simp only [any_declaration?]

theorem isNamed_root_iff (a : Affixes) (path : Path) (fs : Record) :
    isNamed a (Name.recordName a []) (path, .obj fs) = true ↔
      Name.plain (Name.keysOf path) = "Hit" := by
  rw [isNamed, beq_iff_eq]
  exact ⟨Affixes.around_inj, fun h => congrArg a.around h⟩

/-- nothing below the root stands at its path -/
theorem ne_root_of_mem_fieldVisits {fs : Record} {x : Path × Json}
    (h : x ∈ fieldVisits [] fs) : x.1 ≠ [] := by
  rw [fieldVisits_eq_flatMap] at h
  obtain ⟨p, _, hx⟩ := List.mem_flatMap.mp h
  have hprefix := prefix_of_mem_visits _ _ x hx
  intro e
  rw [e] at hprefix
  exact absurd (List.prefix_nil.mp hprefix) (by simp)

/-- the root gets its name as the last visited record, so the first one to get it is the root
exactly if no record below does -/
theorem find?_root (a : Affixes) (fs : Record) :
    ∃ path gs, (visits [] (.obj fs)).find? (isNamed a (Name.recordName a [])) =
        some (path, .obj gs) ∧ (path, .obj gs) ∈ visits [] (.obj fs) ∧
      (path = [] ↔ ∀ x ∈ fieldVisits [] fs, isNamed a (Name.recordName a []) x = false) ∧
      (path = [] → gs = fs) := by
  have hroot : isNamed a (Name.recordName a []) ([], .obj fs) = true :=
    (isNamed_root_iff a [] fs).mpr rfl
  have hvisits : visits [] (.obj fs) = fieldVisits [] fs ++ [([], .obj fs)] :=
    visits_record (by decide) fs
  rw [hvisits, List.find?_append]
  cases hfind : (fieldVisits [] fs).find? (isNamed a (Name.recordName a [])) with
  | none =>
    have hnone : ∀ x ∈ fieldVisits [] fs, isNamed a (Name.recordName a []) x = false := by
      simpa using List.find?_eq_none.mp hfind
    refine ⟨[], fs, ?_, List.mem_append_right _ List.mem_cons_self, ?_, fun _ => rfl⟩
    · rw [Option.none_or, List.find?_cons_of_pos hroot]
    · simpa using hnone
  | some x =>
    obtain ⟨path, v⟩ := x
    have hmem := List.mem_of_find?_eq_some hfind
    have hnamed := List.find?_some hfind
    have hne : path ≠ [] := ne_root_of_mem_fieldVisits hmem
    cases v with
    | obj gs =>
      refine ⟨path, gs, rfl, List.mem_append_left _ hmem, ?_, fun e => absurd e hne⟩
      refine ⟨fun e => absurd e hne, fun h => ?_⟩
      rw [h _ hmem] at hnamed
      exact Bool.noConfusion hnamed
    | null | bool | int | float | str | arr => exact Bool.noConfusion hnamed

end Infer

namespace Declaration

open Infer

section
variable {samples : List Json} {a : Affixes}

theorem root_ne_idValueName : Name.recordName a [] ≠ Name.idValueName a := fun e =>
  Name.append_ne_of_head? (by decide) (by decide) a.trail ((recordName_eq_idValueName_iff []).mp e)

theorem root_ne_valueSetName (path : Path) : Name.recordName a [] ≠ valueSetName a path := fun e =>
  Name.append_ne_of_getLast? (by decide) (by decide) _
    ((recordName_eq_valueSetName_iff [] path).mp e).symm

/-- neither the generic type nor a value set has the name of the root -/
theorem count_root (sets : List ValueSet)
    (h : Name.recordName a [] ∈ emissionOrder (registryFor samples a).bodies) :
    (declaredNames (registryFor samples a) a sets).count (Name.recordName a []) = 1 := by
  have hgeneric : Name.recordName a [] ∉ (registryFor samples a).idValueName.toList := fun hm =>
    root_ne_idValueName (idValueName_registryFor (Option.mem_toList.mp hm))
  have hvalues : Name.recordName a [] ∉ (sets.map ValueSet.path).map (valueSetName a) := by
    intro hm
    obtain ⟨p, _, e⟩ := List.mem_map.mp hm
    exact root_ne_valueSetName p e.symm
  rw [declaredNames, List.count_append, List.count_append, List.count_eq_zero_of_not_mem hgeneric,
    List.count_eq_zero_of_not_mem hvalues, List.count_eq_one_of_mem nodup_order_registryFor h]

end

/-- The text for some records declares the name of the root exactly once.  The declaration has one
field for each key of the first visited record that gets this name, and no other field.  That is the
root itself exactly if no record below it gets the name, whatever the affixes; a record gets it if
no key leads to it, or if its last key is capitalised to `Hit` and the one before is neither
`campground` nor contains `Info`. -/
theorem root_declared {rs : List Record} (hkeys : ∀ r ∈ rs, (Json.obj r).keysDistinct = true)
    (t : Target) :
    let samples := rs.map Json.obj
    let root := Name.recordName t.affixes []
    let r := registryFor samples t.affixes
    let sets := if t.enums then (mergeSamples samples).valueSets else []
    let merged := mergedRecord rs
    let below := fieldVisits [] merged
    let names := declaredNames r t.affixes sets
    let blocks := declarationBlocks r t.affixes sets
    (mergeSamples samples).record = .obj merged ∧ (Fields.names merged).Nodup ∧
      (generate samples t).1 =
        TypeExpr.joinTexts "\n\n" (header t.indexName :: blocks) ++ "\n" ∧
      List.Forall₂ Declares names blocks ∧ names.count root = 1 ∧
      (∃ path fs fields,
        (below ++ [([], Json.obj merged)]).find? (isNamed t.affixes root) = some (path, .obj fs) ∧
        docComment (summary t.affixes root) ++ "\n" ++ interfaceText root fields ∈ blocks ∧
        Fields.names fields = Fields.names fs ∧ (Fields.names fs).Nodup ∧
        (path = [] ↔ ∀ x ∈ below, isNamed t.affixes root x = false) ∧ (path = [] → fs = merged)) ∧
      ∀ q gs, isNamed t.affixes root (q, .obj gs) = true ↔
        Name.keysOf q = [] ∨ ∃ key rest, Name.keysOf q = key :: rest ∧
          Name.pascalCase key = "Hit" ∧ ∀ parent, rest.head? = some parent →
            parent ≠ "campground" ∧ Name.occursIn "Info".toList parent.toList = false := by
  intro samples root r sets merged below names blocks
  have hmerged : (mergeSamples samples).record = .obj merged := record_mergeSamples_eq rs
  have hdistinct : (Json.obj merged).keysDistinct = true := keysDistinct_mergedRecord hkeys
  have hvisits : visits [] (.obj merged) = below ++ [([], Json.obj merged)] :=
    visits_record (by decide) merged
  obtain ⟨path, fs, hfind, hmem, hpath, hroot⟩ := find?_root t.affixes merged
  have hname : Name.recordName t.affixes path = root := by
    simpa [isNamed] using List.find?_some hfind
  have hget : r.get? root = some (declarationAt ⟨t.affixes, nullablePaths samples⟩ path fs) := by
    show (infer _ [] {} (mergeSamples samples).record).2.registry.get? root = _
    rw [hmerged, get?_eq_find?, hfind]
    rfl
  have horder : root ∈ emissionOrder r.bodies := by
    rw [mem_emissionOrder_bodies, ← Registry.contains_eq_true_iff, ← Registry.isSome_get?, hget]
    rfl
  refine ⟨hmerged, Json.nodup_names_of_keysDistinct hdistinct, text_generate_blocks samples t,
    declares_blocks sets, count_root sets horder, ?_, fun q gs => ?_⟩
  · refine ⟨path, fs, fieldShapesAt ⟨t.affixes, nullablePaths samples⟩ path fs, ?_, ?_,
      names_fieldShapesAt path fs, ?_, hpath, hroot⟩
    · rw [← hvisits]
      exact hfind
    · have hblock : typeBlock r t.affixes root = docComment (summary t.affixes root) ++ "\n" ++
          interfaceText root (fieldShapesAt ⟨t.affixes, nullablePaths samples⟩ path fs) := by
        rw [typeBlock, hget, ← hname]
        rfl
      rw [← hblock]
      exact List.mem_append_left _ (List.mem_append_right _ (List.mem_map_of_mem horder))
    · exact Json.nodup_names_of_keysDistinct (keysDistinct_of_mem_visits hdistinct _ hmem)
  · rw [isNamed_root_iff]
    exact Name.plain_eq_hit_iff _

/-- a record at the key `hit` below one whose key contains `Info` gets another name -/
theorem root_declared_apart :
    let rs : List Record :=
      [[("contactInfo", .obj [("hit", .obj [("x", .int 1)])])], [("b", .null)]]
    let t : Target := ⟨"products", ⟨"P", "T"⟩, false⟩
    let r := registryFor (rs.map Json.obj) t.affixes
    (∀ r ∈ rs, (Json.obj r).keysDistinct = true) ∧
      (declaredNames r t.affixes []).count "PHitT" = 1 ∧
      ∃ fields, docComment (summary t.affixes "PHitT") ++ "\n" ++ interfaceText "PHitT" fields ∈
          declarationBlocks r t.affixes [] ∧
        Fields.names fields = ["contactInfo", "b"] := by
  intro rs t r
  have hkeys : ∀ r ∈ rs, (Json.obj r).keysDistinct = true := by decide
  have hbelow : ∀ x ∈ fieldVisits [] (mergedRecord rs), isNamed t.affixes "PHitT" x = false := by
    rw [show fieldVisits [] (mergedRecord rs) = [(["contactInfo", "hit", "x"], .int 1),
      (["contactInfo", "hit"], .obj [("x", .int 1)]),
      (["contactInfo"], .obj [("hit", .obj [("x", .int 1)])]), (["b"], .null)] from rfl]
    decide
  obtain ⟨_, _, _, _, hcount, ⟨path, fs, fields, _, hblock, hnames, _, hpath, hroot⟩, _⟩ :=
    root_declared hkeys t
  rw [hroot (hpath.mpr hbelow)] at hnames
  exact ⟨hkeys, hcount, fields, hblock, hnames⟩

/-- a record below the root gets its name, and the root is not declared -/
theorem root_hidden_below :
    let samples : List Json := [.obj [("hit", .obj [("x", .int 1)])]]
    let r := registryFor samples {}
    (mergeSamples samples).record = .obj [("hit", .obj [("x", .int 1)])] ∧
      (generate samples ⟨"products", {}, false⟩).1 = TypeExpr.joinTexts "\n\n" [header "products",
        docComment (summary {} "Hit") ++ "\n" ++
          "export interface Hit \x7b\n  x: number;\n\x7d"] ++ "\n" ∧
      r.declarations.map (fun d => (d.name, Fields.names d.fields)) = [("Hit", ["x"])] := by
  intro samples r
  have hsorted : ∀ p : String × Shape, Fields.sorted [p] = [p] :=
    fun p => List.mergeSort_singleton p
  have hbody : interfaceText "Hit" [("x", { type := .name "number" })] =
      "export interface Hit \x7b\n  x: number;\n\x7d" := by
    rw [interfaceText, fieldLines, hsorted]
    rfl
  have hbodies : r.bodies = [("Hit", "export interface Hit \x7b\n  x: number;\n\x7d")] := by
    rw [← hbody]
    rfl
  have horder : emissionOrder r.bodies = ["Hit"] := by
    rw [hbodies]
    decide
  have hget : r.get? "Hit" = some ⟨"Hit", [("x", { type := .name "number" })],
    interfaceText "Hit" [("x", { type := .name "number" })]⟩ := rfl
  have hblocks : declarationBlocks r {} [] = [docComment (summary {} "Hit") ++ "\n" ++
      "export interface Hit \x7b\n  x: number;\n\x7d"] := by
    rw [declarationBlocks, horder, List.map_singleton, typeBlock, hget, ← hbody]
    rfl
  refine ⟨rfl, ?_, by decide⟩
  rw [text_generate_blocks, ← hblocks]
  rfl

end Declaration

end SampleTypes
