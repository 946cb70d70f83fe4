import SampleTypes.Proofs.Inference.Repeats

/-!
# The values of leaves do not count

The shape of a value and what is registered for it are those of its skeleton, in which texts,
numbers and truth values are left blank.
-/

namespace SampleTypes

open Json (blank)

theorem pairValue?_skeleton (v : Json) :
    pairValue? v.skeleton = (pairValue? v).map Json.skeleton := by
  cases v with
  | obj fs =>
    have hlen : (blank fs).length = fs.length := by rw [blank, List.length_map]
    have hid : ((blank fs).lookup "id").map Json.isString = (fs.lookup "id").map Json.isString := by
      rw [Json.lookup_blank, Option.map_map]
      congr 1
      exact funext Json.isString_skeleton
    rw [Json.skeleton_obj]
    show pairValue? (.obj (blank fs)) = _
    rw [pairValue?, pairValue?, hlen, hid, Json.lookup_blank]
    split <;> rfl
  | arr xs => rw [Json.skeleton_arr]; rfl
  | _ => rfl

theorem isIdValuePair_skeleton (v : Json) : isIdValuePair v.skeleton = isIdValuePair v := by
  rw [isIdValuePair, pairValue?_skeleton, Option.isSome_map, isIdValuePair]

theorem all_isIdValuePair_skeleton (xs : List Json) :
    (xs.map Json.skeleton).all isIdValuePair = xs.all isIdValuePair := by
  rw [List.all_map]
  congr 1
  exact funext isIdValuePair_skeleton

namespace Infer

/-- shape and findings of a value are those of its skeleton -/
def Blind (s : Settings) (v : Json) : Prop :=
  ∀ path, shapeAt s path v.skeleton = shapeAt s path v ∧
    findings s path v.skeleton = findings s path v

theorem items_blind {s : Settings} {xs : List Json} (h : ∀ x ∈ xs, Blind s x) (path : Path)
    (i : Nat) : itemShapesAt s path i (xs.map Json.skeleton) = itemShapesAt s path i xs ∧
      itemFindings s path i (xs.map Json.skeleton) = itemFindings s path i xs := by
  induction xs generalizing i with
  | nil => exact ⟨rfl, rfl⟩
  | cons x xs ih =>
    obtain ⟨h1, h2⟩ := h x (by simp) (path ++ [Name.marker i])
    obtain ⟨ih1, ih2⟩ := ih (fun y hy => h y (List.mem_cons_of_mem _ hy)) (i + 1)
    rw [List.map_cons, itemShapesAt, itemShapesAt, itemFindings, itemFindings, h1, h2, ih1, ih2]
    exact ⟨rfl, rfl⟩

theorem pairs_blind {s : Settings} {xs : List Json} (hne : xs ≠ [])
    (hp : xs.all isIdValuePair = true) (h : ∀ fs v, .obj fs ∈ xs → PairFields fs v → Blind s v)
    (path : Path) :
    pairShapeAt s path (xs.map Json.skeleton) = pairShapeAt s path xs ∧
      pairFindings s (pairPath path 0) (xs.map Json.skeleton) =
        pairFindings s (pairPath path 0) xs := by
  obtain ⟨fs, v, rest, rfl, hf⟩ := exists_firstPair hne hp
  have hb : PairFields (blank fs) v.skeleton := by
    obtain ⟨i, hi⟩ := hf
    refine ⟨"", ?_⟩
    have := hi.map fun p => (p.1, p.2.skeleton)
    simpa [blank, Json.skeleton] using this
  rw [List.map_cons, Json.skeleton_obj]
  show pairShapeAt s path (.obj (blank fs) :: _) = _ ∧
    pairFindings s (pairPath path 0) (.obj (blank fs) :: _) = _
  rw [pairShapeAt_cons hb, pairShapeAt_cons hf, pairFindings_cons hb, pairFindings_cons hf]
  exact h fs v (by simp) hf (pairPath path 0)

theorem leafShape_skeleton {v : Json} (hv : v.isLeaf = true) :
    leafShape v.skeleton = leafShape v := by
  cases v with
  | arr | obj => exact Bool.noConfusion hv
  | null | bool | int | float | str => rfl

theorem blind (s : Settings) (v : Json) : Blind s v := by
  intro path
  induction path, v using Infer.induction with
  | deep path v hd =>
    rw [shapeAt_deep hd, shapeAt_deep hd, findings_deep hd, findings_deep hd]
    exact ⟨rfl, rfl⟩
  | leaf path v hd hv =>
    have hv' : v.skeleton.isLeaf = true := (Json.isLeaf_skeleton v).trans hv
    rw [shapeAt_leaf hd hv, shapeAt_leaf hd hv', findings_leaf hv, findings_leaf hv',
      leafShape_skeleton hv]
    exact ⟨rfl, rfl⟩
  | empty path hd => exact ⟨rfl, rfl⟩
  | pairs path xs hd hne hp ih =>
    have hne' : xs.map Json.skeleton ≠ [] := fun e => hne (List.map_eq_nil_iff.mp e)
    have hall := (all_isIdValuePair_skeleton xs).trans hp
    obtain ⟨h1, h2⟩ := pairs_blind hne hp ih path
    rw [Json.skeleton_arr, shapeAt_pairs hd hne' hall, shapeAt_pairs hd hne hp,
      findings_pairs hd hne' hall, findings_pairs hd hne hp, h1, h2]
    exact ⟨rfl, rfl⟩
  | items path xs hd hne hp ih =>
    have hne' : xs.map Json.skeleton ≠ [] := fun e => hne (List.map_eq_nil_iff.mp e)
    have hall := (all_isIdValuePair_skeleton xs).trans hp
    obtain ⟨h1, h2⟩ := items_blind ih path 0
    rw [Json.skeleton_arr, shapeAt_items hd hne' hall, shapeAt_items hd hne hp,
      findings_items hd hall, findings_items hd hp, h1, h2]
    exact ⟨rfl, rfl⟩
  | record path fs hd ih =>
    have hfields : fieldShapesAt s path (blank fs) = fieldShapesAt s path fs := by
      rw [fieldShapesAt, fieldShapesAt, blank, List.map_map]
      refine List.map_congr_left fun p hp => ?_
      show (p.1, fieldShape s (path ++ [p.1]) p.2.skeleton
        (shapeAt s (path ++ [p.1]) p.2.skeleton)) = _
      rw [(ih p hp (path ++ [p.1])).1, fieldShape, fieldShape, Json.isNull_skeleton]
    have hbelow : ((blank fs).flatMap fun p => findings s (path ++ [p.1]) p.2) =
        fs.flatMap fun p => findings s (path ++ [p.1]) p.2 := by
      rw [blank, List.flatMap_map]
      exact List.flatMap_congr fun p hp => (ih p hp (path ++ [p.1])).2
    rw [Json.skeleton_obj]
    show shapeAt s path (.obj (blank fs)) = _ ∧ findings s path (.obj (blank fs)) = _
    rw [shapeAt_record hd, shapeAt_record hd, findings_record hd, findings_record hd, hbelow,
      declarationAt, declarationAt, hfields]
    exact ⟨rfl, rfl⟩

/-- a value is not told from its skeleton -/
theorem Same.skeleton (s : Settings) (path : Path) (v : Json) : Same s path v.skeleton v := by
  obtain ⟨h1, h2⟩ := blind s v path
  exact ⟨h1, fun r => by rw [h2], Json.isNull_skeleton v⟩

end Infer

end SampleTypes
