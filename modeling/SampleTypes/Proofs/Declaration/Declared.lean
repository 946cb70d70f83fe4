import SampleTypes.Proofs.Declaration.Follows
import SampleTypes.Proofs.Inference.Rename
import SampleTypes.Proofs.Sample.ValueSets
import SampleTypes.Proofs.Shape.Initial

/-!
# The names that a document declares

The blocks of a document declare the generic type, the record types and the value sets.  The names
of record types are kept apart by the registry; the other names are made without a look at it, or at
one another.

* `Declares n block`     the block declares the name `n`;
* `declaredNames r a s`  the names declared for a registry and some value sets, in order;
* `declared_names`       every block declares its name, and when no name is declared twice;
* `alias_declared_twice` two keys that differ in their capitals give two value sets one name.
-/

namespace SampleTypes

namespace Declaration

open Infer

/-- the block declares the name: a comment or none, a keyword, the name, and a character that
cannot be part of it -/
def Declares (name block : String) : Prop :=
  ∃ comment keyword rest, (comment = "" ∨ ∃ t, comment = docComment t ++ "\n") ∧
    (keyword = "export type " ∨ keyword = "export interface ") ∧
    rest.toList.head?.any (fun c => !isIdentPart c) = true ∧
    block = comment ++ keyword ++ name ++ rest

theorem declares_idValueText (n : String) : Declares n (idValueText n) :=
  ⟨"", "export type ", "<T = string> = \x7b\n  id: string;\n  value: T;\n\x7d;", .inl rfl,
    .inl rfl, rfl, rfl⟩

theorem interfaceText_eq (name : String) (fields : List (String × Shape)) :
    interfaceText name fields = "export interface " ++ name ++ " \x7b" ++
      String.join ((fieldLines fields ++ ["\x7d"]).map ("\n" ++ ·)) :=
  TypeExpr.joinTexts_append "\n" ("export interface " ++ name ++ " \x7b") [] _

theorem declares_block (a : Affixes) (name : String) (fields : List (String × Shape)) :
    Declares name (docComment (summary a name) ++ "\n" ++ interfaceText name fields) := by
  refine ⟨docComment (summary a name) ++ "\n", "export interface ",
    " \x7b" ++ String.join ((fieldLines fields ++ ["\x7d"]).map ("\n" ++ ·)), .inr ⟨_, rfl⟩,
    .inr rfl, ?_, ?_⟩
  · rw [String.toList_append]
    rfl
  · rw [interfaceText_eq]
    simp only [String.append_assoc]

theorem declares_valueSetText (a : Affixes) (v : ValueSet) :
    Declares (valueSetName a v.path) (valueSetText a v) := by
  refine ⟨docComment ("Observed values of " ++ v.dotted) ++ "\n", "export type ",
    " = " ++ TypeExpr.joinTexts " | " (v.values.map Json.text) ++ ";", .inr ⟨_, rfl⟩, .inl rfl,
    ?_, ?_⟩
  · rw [String.toList_append, String.toList_append]
    rfl
  · have hkeyword : "\nexport type " = "\n" ++ "export type " := rfl
    rw [valueSetText, hkeyword]
    simp only [String.append_assoc]

/-! ## the blocks of a document -/

/-- the names declared for a registry and some value sets, in order -/
def declaredNames (r : Registry) (a : Affixes) (sets : List ValueSet) : List String :=
  r.idValueName.toList ++ emissionOrder r.bodies ++ (sets.map ValueSet.path).map (valueSetName a)

/-- the blocks below the header of a document -/
def declarationBlocks (r : Registry) (a : Affixes) (sets : List ValueSet) : List String :=
  genericBlock r ++ (emissionOrder r.bodies).map (typeBlock r a) ++ sets.map (valueSetText a)

theorem text_generate_blocks (samples : List Json) (t : Target) :
    (generate samples t).1 = TypeExpr.joinTexts "\n\n" (header t.indexName ::
      declarationBlocks (registryFor samples t.affixes) t.affixes
        (if t.enums then (mergeSamples samples).valueSets else [])) ++ "\n" := by
  show (document (registryFor samples t.affixes)
    (emissionOrder (registryFor samples t.affixes).bodies) _ _ _).toOption.getD "" = _
  rw [document, blocks_emitted]
  rfl

section
variable {samples : List Json} {a : Affixes}

theorem idValueName_registryFor {g : String} (h : (registryFor samples a).idValueName = some g) :
    g = Name.idValueName a := by
  rw [registryFor, idValueName_infer] at h
  split at h
  · exact (Option.some.inj h).symm
  · simp at h

theorem declares_genericBlock : List.Forall₂ Declares (registryFor samples a).idValueName.toList
    (genericBlock (registryFor samples a)) := by
  rw [genericBlock]
  cases h : (registryFor samples a).idValueName with
  | none => exact .nil
  | some g =>
    have hne : g ≠ "" := idValueName_registryFor h ▸ Name.idValueName_ne (by decide)
    show List.Forall₂ Declares [g] (if g = "" then [] else [idValueText g])
    rw [if_neg hne]
    exact .cons (declares_idValueText g) .nil

theorem declares_typeBlock {n : String} (hn : n ∈ (registryFor samples a).names) :
    Declares n (typeBlock (registryFor samples a) a n) := by
  obtain ⟨d, hmem, rfl, hget⟩ := Registry.exists_get? hn
  obtain ⟨q, fs, _, rfl⟩ := exists_visit_of_mem_declarations hmem
  rw [typeBlock, hget]
  exact declares_block a _ _

/-- every block declares its name -/
theorem declares_blocks (sets : List ValueSet) :
    List.Forall₂ Declares (declaredNames (registryFor samples a) a sets)
      (declarationBlocks (registryFor samples a) a sets) := by
  have htypes : List.Forall₂ Declares (emissionOrder (registryFor samples a).bodies)
      ((emissionOrder (registryFor samples a).bodies).map (typeBlock (registryFor samples a) a)) :=
    List.forall₂_map_right_iff.mpr (List.forall₂_same.mpr fun n hn =>
      declares_typeBlock (mem_emissionOrder_bodies.mp hn))
  have hsets : List.Forall₂ Declares ((sets.map ValueSet.path).map (valueSetName a))
      (sets.map (valueSetText a)) := by
    rw [List.map_map, List.forall₂_map_left_iff, List.forall₂_map_right_iff, List.forall₂_same]
    exact fun v _ => declares_valueSetText a v
  exact List.rel_append (List.rel_append declares_genericBlock htypes) hsets

/-! ## names that meet -/

/-- the name of the generic type is never that of a value set -/
theorem idValueName_ne_valueSetName (path : Path) : Name.idValueName a ≠ valueSetName a path := by
  intro h
  have hcancel : "IdValue" = Name.valuesWord path ++ a.trail := by
    apply (String.append_right_inj a.lead).mp
    rw [← String.append_assoc]
    exact h
  have hs : 's' ∈ "IdValue".toList := by
    rw [hcancel, Name.valuesWord, String.toList_append, String.toList_append]
    exact List.mem_append_left _ (List.mem_append_right _ (by decide))
  exact absurd hs (by decide)

theorem recordName_eq_idValueName_iff (path : Path) :
    Name.recordName a path = Name.idValueName a ↔
      Name.plain (Name.keysOf path) ++ a.trail = "IdValue" := by
  rw [Name.recordName, Affixes.around, Name.idValueName, String.append_assoc,
    String.append_right_inj]

theorem recordName_eq_valueSetName_iff (path place : Path) :
    Name.recordName a path = valueSetName a place ↔
      Name.plain (Name.keysOf path) = Name.valuesWord place :=
  ⟨Affixes.around_inj, fun h => congrArg a.around h⟩

theorem valueSetName_eq_iff (p q : Path) :
    valueSetName a p = valueSetName a q ↔ Name.valuesWord p = Name.valuesWord q :=
  ⟨Affixes.around_inj, fun h => congrArg a.around h⟩

theorem mem_order_registryFor {n : String} : n ∈ emissionOrder (registryFor samples a).bodies ↔
    ∃ q fs, (q, .obj fs) ∈ visits [] (mergeSamples samples).record ∧ Name.recordName a q = n :=
  mem_emissionOrder_bodies.trans mem_names_infer

/-- the name of the generic type is that of no record -/
theorem generic_apart_iff :
    (∀ g ∈ (registryFor samples a).idValueName.toList,
      ∀ n ∈ emissionOrder (registryFor samples a).bodies, g ≠ n) ↔
    ((visits [] (mergeSamples samples).record).any (·.2.isPairs) = true →
      ∀ q fs, (q, .obj fs) ∈ visits [] (mergeSamples samples).record →
        Name.plain (Name.keysOf q) ++ a.trail ≠ "IdValue") := by
  have hgeneric : (registryFor samples a).idValueName =
      if (visits [] (mergeSamples samples).record).any (·.2.isPairs) then
        some (Name.idValueName a) else none := idValueName_infer
  rw [hgeneric]
  cases (visits [] (mergeSamples samples).record).any (·.2.isPairs) with
  | false => simp
  | true =>
    simp only [if_true, Option.toList_some, List.forall_mem_singleton, true_implies]
    constructor
    · intro h q fs hq e
      exact h _ (mem_order_registryFor.mpr ⟨q, fs, hq, rfl⟩)
        ((recordName_eq_idValueName_iff q).mpr e).symm
    · rintro h n hn rfl
      obtain ⟨q, fs, hq, e⟩ := mem_order_registryFor.mp hn
      exact h q fs hq ((recordName_eq_idValueName_iff q).mp e)

/-- the names of value sets are those of no records -/
theorem values_apart_iff (paths : List Path) :
    (∀ n ∈ emissionOrder (registryFor samples a).bodies,
      ∀ m ∈ paths.map (valueSetName a), n ≠ m) ↔
    ∀ p ∈ paths, ∀ q fs, (q, .obj fs) ∈ visits [] (mergeSamples samples).record →
      Name.plain (Name.keysOf q) ≠ Name.valuesWord p := by
  constructor
  · intro h p hp q fs hq e
    exact h _ (mem_order_registryFor.mpr ⟨q, fs, hq, rfl⟩) _ (List.mem_map_of_mem hp)
      ((recordName_eq_valueSetName_iff q p).mpr e)
  · intro h n hn m hm e
    obtain ⟨q, fs, hq, rfl⟩ := mem_order_registryFor.mp hn
    obtain ⟨p, hp, rfl⟩ := List.mem_map.mp hm
    exact h p hp q fs hq ((recordName_eq_valueSetName_iff q p).mp e)

theorem nodup_order_registryFor : (emissionOrder (registryFor samples a).bodies).Nodup :=
  (perm_emissionOrder nodup_names_infer).nodup_iff.mpr nodup_names_infer

end

theorem nodup_paths_sets (rs : List Record) (wanted : Bool) :
    ((if wanted then (mergeSamples (rs.map Json.obj)).valueSets else []).map
      ValueSet.path).Nodup := by
  cases wanted with
  | false => exact List.nodup_nil
  | true => exact nodup_paths_mergeSamples rs

/-- The text for some records is a header and blocks that declare one name each.  No two record
types are declared under one name.  A name is declared twice exactly if an array of pairs is visited
and a record gets the name of the generic type, or a record gets that of a value set, or two value
sets get the same one. -/
theorem declared_names (rs : List Record) (t : Target) :
    let samples := rs.map Json.obj
    let r := registryFor samples t.affixes
    let sets := if t.enums then (mergeSamples samples).valueSets else []
    let paths := sets.map ValueSet.path
    let visited := visits [] (mergeSamples samples).record
    let names := declaredNames r t.affixes sets
    let blocks := declarationBlocks r t.affixes sets
    (generate samples t).1 =
        TypeExpr.joinTexts "\n\n" (header t.indexName :: blocks) ++ "\n" ∧
      List.Forall₂ Declares names blocks ∧ (emissionOrder r.bodies).Nodup ∧
      (names.Nodup ↔
        (visited.any (·.2.isPairs) = true → ∀ q fs, (q, .obj fs) ∈ visited →
          Name.plain (Name.keysOf q) ++ t.affixes.trail ≠ "IdValue") ∧
        (∀ p ∈ paths, ∀ q fs, (q, .obj fs) ∈ visited →
          Name.plain (Name.keysOf q) ≠ Name.valuesWord p) ∧
        ∀ p ∈ paths, ∀ q ∈ paths, Name.valuesWord p = Name.valuesWord q → p = q) := by
  intro samples r sets paths visited names blocks
  have horder : (emissionOrder r.bodies).Nodup := nodup_order_registryFor
  refine ⟨text_generate_blocks samples t, declares_blocks sets, horder, ?_⟩
  have hsets : (paths.map (valueSetName t.affixes)).Nodup ↔
      ∀ p ∈ paths, ∀ q ∈ paths, Name.valuesWord p = Name.valuesWord q → p = q := by
    rw [List.nodup_map_iff_inj_on (nodup_paths_sets rs t.enums)]
    exact forall₂_congr fun p _ => forall₂_congr fun q _ => by
      rw [valueSetName_eq_iff]
  rw [← generic_apart_iff, ← values_apart_iff, ← hsets]
  show (r.idValueName.toList ++ emissionOrder r.bodies ++ _).Nodup ↔ _
  rw [List.nodup_append, List.nodup_append]
  constructor
  · rintro ⟨⟨_, _, hgeneric⟩, hnodup, hvalues⟩
    exact ⟨hgeneric, fun n hn => hvalues n (List.mem_append_right _ hn), hnodup⟩
  · rintro ⟨hgeneric, hvalues, hnodup⟩
    refine ⟨⟨?_, horder, hgeneric⟩, hnodup, fun n hn m hm => ?_⟩
    · cases r.idValueName <;> simp
    · rcases List.mem_append.mp hn with hn | hn
      · obtain ⟨p, _, rfl⟩ := List.mem_map.mp hm
        rw [idValueName_registryFor (Option.mem_toList.mp hn)]
        exact idValueName_ne_valueSetName p
      · exact hvalues n hn m hm

/-- two value sets at keys that differ in their capitals have one name; and without value sets, a
record at `id_value` has the name of the generic type -/
theorem alias_declared_twice :
    let samples : List Json :=
      [.obj [("a", .arr [.str "x"]), ("A", .arr [.str "y"])], .obj []]
    let pairs : Json := .arr [.obj [("id", .str "u"), ("value", .int 1)]]
    let other : List Json := [.obj [("id_value", .obj [("x", .int 1)]), ("c", pairs)]]
    (generate samples ⟨"products", {}, true⟩).1 =
        typesText (registryFor samples {}) "products" {} ++
        "\n/**\n * Observed values of a\n */\nexport type AValues = \x22x\x22;\n" ++
        "\n/**\n * Observed values of A\n */\nexport type AValues = \x22y\x22;\n" ∧
      ¬ (declaredNames (registryFor samples {}) {} (mergeSamples samples).valueSets).Nodup ∧
      ¬ (declaredNames (registryFor other {}) {} []).Nodup := by
  intro samples pairs other
  refine ⟨?_, fun h => ?_, fun h => ?_⟩
  · rw [text_generate, String.append_assoc]
    rfl
  · have hpaths : ((mergeSamples samples).valueSets.map ValueSet.path).map (valueSetName {}) =
        ["AValues", "AValues"] := by decide
    rw [declaredNames, hpaths] at h
    exact absurd (List.nodup_append.mp h).2.1 (by decide)
  · have hgeneric : "IdValue" ∈ (registryFor other {}).idValueName.toList := by decide
    have hrecord : "IdValue" ∈ emissionOrder (registryFor other {}).bodies :=
      mem_emissionOrder_bodies.mpr (by decide)
    exact (List.nodup_append.mp (List.nodup_append.mp h).1).2.2 _ hgeneric _ hrecord rfl

end Declaration

end SampleTypes
