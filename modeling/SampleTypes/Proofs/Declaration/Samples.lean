import SampleTypes.Proofs.Declaration.Document
import SampleTypes.Proofs.Sample.Contained
import SampleTypes.Proofs.Sample.Skeleton

/-!
# What the text for some samples does not depend on

Without value sets, samples with the same skeletons have the same text, and a sample that is
contained in another one changes nothing.  With value sets their declarations are added at the
end.
-/

namespace SampleTypes.Declaration

open Infer

theorem registryFor_eq_takeAll (samples : List Json) (a : Affixes) :
    registryFor samples a = ({} : Registry).takeAll
      (findings ⟨a, nullablePaths samples⟩ [] (mergeSamples samples).record) :=
  registry_infer _ _ _ _

/-- samples lead to one registry if null was seen at the same paths and an inference does not tell
the merged records apart -/
theorem registryFor_eq {samples samples' : List Json} {a : Affixes}
    (hnull : nullablePaths samples = nullablePaths samples')
    (h : Same ⟨a, nullablePaths samples'⟩ [] (mergeSamples samples).record
      (mergeSamples samples').record) : registryFor samples a = registryFor samples' a := by
  rw [registryFor_eq_takeAll, registryFor_eq_takeAll, hnull]
  exact h.registry _

theorem text_eq_of_registry {samples samples' : List Json} {t : Target} (ht : t.enums = false)
    (h : registryFor samples t.affixes = registryFor samples' t.affixes) :
    (generate samples t).1 = (generate samples' t).1 := by
  rw [text_generate, text_generate, h, ht]
  rfl

/-! ## leaves -/

theorem registryFor_skeletons (samples : List Json) (a : Affixes) :
    registryFor (samples.map Json.skeleton) a = registryFor samples a :=
  registryFor_eq (nullablePaths_skeleton samples) (Same.mergeSamples a samples)

/-- the text is that of the skeletons; value sets, if they are wanted, only come after it -/
theorem text_of_skeletons (samples samples' : List Json) (t : Target) :
    (samples.map Json.skeleton = samples'.map Json.skeleton → t.enums = false →
      (generate samples t).1 = (generate samples' t).1) ∧
    (generate samples { t with enums := true }).1 =
      (generate samples { t with enums := false }).1 ++
        valueSetsText t.affixes (mergeSamples samples).valueSets := by
  refine ⟨fun h ht => text_eq_of_registry ht ?_, ?_⟩
  · rw [← registryFor_skeletons samples, h, registryFor_skeletons]
  · rw [text_generate, text_generate]
    show _ = _ ++ "" ++ _
    rw [String.append_empty]
    rfl

/-- in the first samples two items are repeated, in the second ones other two -/
theorem text_of_skeletons_repeated :
    let samples : List Json := [.obj [("a", .arr [.int 1, .int 1])], .obj [("a", .arr [.int 2])]]
    let samples' : List Json := [.obj [("a", .arr [.int 3, .int 4])], .obj [("a", .arr [.int 4])]]
    samples.map Json.skeleton = samples'.map Json.skeleton ∧
      (generate samples ⟨"products", {}, false⟩).1 =
        (generate samples' ⟨"products", {}, false⟩).1 :=
  ⟨rfl, (text_of_skeletons _ _ ⟨"products", {}, false⟩).1 rfl rfl⟩

/-! ## samples that show nothing new -/

theorem exists_records {samples : List Json} (h : ∀ v ∈ samples, v.isRecord = true) :
    ∃ rs : List Record, samples = rs.map Json.obj := by
  induction samples with
  | nil => exact ⟨[], rfl⟩
  | cons v samples ih =>
    obtain ⟨rs, rfl⟩ := ih fun w hw => h w (List.mem_cons_of_mem _ hw)
    have hv := h v (by simp)
    cases v with
    | obj r => exact ⟨r :: rs, rfl⟩
    | _ => simp [Json.isRecord] at hv

/-- a sample that is contained in one of the others changes nothing -/
theorem text_concat_of_isContained {samples : List Json} {v w : Json}
    (hrecord : ∀ x ∈ samples, x.isRecord = true) (hkeys : ∀ x ∈ samples, x.keysDistinct = true)
    (hw : w ∈ samples) (hv : v.isContained w = true) {t : Target} (ht : t.enums = false) :
    (generate (samples ++ [v]) t).1 = (generate samples t).1 := by
  obtain ⟨rs, rfl⟩ := exists_records hrecord
  obtain ⟨g, hg, rfl⟩ := List.mem_map.mp hw
  obtain ⟨r, rfl⟩ := Json.isContained_obj hv
  have hr : Shown rs r := ⟨g, hg, hv⟩
  have hsamples : rs.map Json.obj ++ [Json.obj r] = (rs ++ [r]).map Json.obj := by
    rw [List.map_append, List.map_singleton]
  have hnull : nullablePaths ((rs ++ [r]).map Json.obj) = nullablePaths (rs.map Json.obj) := by
    show nullableBelow (levels (samplesOf _)) [] (samplesOf _) =
      nullableBelow (levels (samplesOf _)) [] (samplesOf _)
    rw [samplesOf_map_obj, samplesOf_map_obj, hr.levels_concat, hr.nullableBelow_concat]
  rw [hsamples]
  refine text_eq_of_registry ht (registryFor_eq hnull ?_)
  have hnulls := nulls_nullablePaths t.affixes (rs.map Json.obj)
  rw [samplesOf_map_obj] at hnulls
  rw [record_mergeSamples, record_mergeSamples, hr.levels_concat]
  exact Same.contained hr hnulls (Nat.le_refl _) fun u hu => hkeys _ (List.mem_map_of_mem hu)

theorem text_concat_of_isContained_part :
    let sample : Json := .obj [("a", .arr [.int 1, .int 2]), ("b", .obj [("c", .null)])]
    let part : Json := .obj [("b", .obj []), ("a", .arr [.int 2, .int 2])]
    (∀ x ∈ [sample], x.isRecord = true) ∧ (∀ x ∈ [sample], x.keysDistinct = true) ∧
      sample ∈ [sample] ∧ part.isContained sample = true ∧
      (generate ([sample] ++ [part]) ⟨"products", {}, false⟩).1 =
        (generate [sample] ⟨"products", {}, false⟩).1 := by
  intro sample part
  have hrecord : ∀ x ∈ [sample], x.isRecord = true := List.forall_mem_singleton.mpr rfl
  have hkeys : ∀ x ∈ [sample], x.keysDistinct = true := List.forall_mem_singleton.mpr (by decide)
  have hpart : part.isContained sample = true := by decide
  exact ⟨hrecord, hkeys, List.mem_singleton.mpr rfl, hpart,
    text_concat_of_isContained hrecord hkeys (List.mem_singleton.mpr rfl) hpart rfl⟩

end SampleTypes.Declaration
