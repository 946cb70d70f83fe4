import SampleTypes.Proofs.Distinct
import SampleTypes.Proofs.Inference.Place
import SampleTypes.Proofs.Json.Identity
import SampleTypes.Sample.ValueSet

/-!
# Repeated items do not count

An item of an array that has the canonical text of an earlier one changes neither the shape of
the array nor what is registered: its type is that of the earlier item, and everything it would
register is registered already.

* `Registry.Has r k`       the registry holds what has the key `k`;
* `Same s p v w`           an inference at the path `p` does not tell `v` from `w`;
* `Same.record`            records with the same keys and values that are not told apart;
* `Same.distinct`          an array and its items taken once each;
* `infer_unionItems`       neither repeated items nor the indices of items count.
-/

namespace SampleTypes

namespace Registry

open Infer

/-! ## what a registry holds -/

/-- whether a name is registered, or the generic type -/
def Has (r : Registry) : Option String → Prop
  | some n => n ∈ r.names
  | none => r.idValueName.isSome = true

theorem names_take (r : Registry) (f : Finding) {n : String} (h : n ∈ r.names) :
    n ∈ (r.take f).names := by
  cases f with
  | record d =>
    rw [take, names_register]
    split
    · exact h
    · exact List.mem_append_left _ h
  | generic m => exact h

theorem has_take_self (r : Registry) (f : Finding) : (r.take f).Has f.key := by
  cases f with
  | record d =>
    show d.name ∈ (r.register d).names
    rw [names_register]
    split
    · assumption
    · simp
  | generic m => rfl

theorem has_take_of_has {r : Registry} {k : Option String} (h : r.Has k) (f : Finding) :
    (r.take f).Has k := by
  cases k with
  | some n => exact names_take r f h
  | none =>
    cases f with
    | record d =>
      show (r.register d).idValueName.isSome = true
      rw [register]
      split <;> exact h
    | generic m => rfl

theorem take_of_has {r : Registry} {f : Finding} (h : r.Has f.key) : r.take f = r := by
  cases f with
  | record d => exact if_pos (contains_eq_true_iff.mpr h)
  | generic m =>
    obtain ⟨n, hn⟩ := Option.isSome_iff_exists.mp h
    rw [take, registerIdValue, hn, Option.getD_some, ← hn]

theorem has_takeAll_of_has {r : Registry} {k : Option String} (h : r.Has k) (fs : List Finding) :
    (r.takeAll fs).Has k := by
  induction fs generalizing r with
  | nil => exact h
  | cons f fs ih => exact ih (has_take_of_has h f)

theorem has_takeAll_self (r : Registry) {fs : List Finding} {f : Finding} (h : f ∈ fs) :
    (r.takeAll fs).Has f.key := by
  induction fs generalizing r with
  | nil => simp at h
  | cons g fs ih =>
    rcases List.mem_cons.mp h with rfl | h
    · exact has_takeAll_of_has (has_take_self r f) fs
    · exact ih (r.take g) h

theorem takeAll_of_has {r : Registry} {fs : List Finding} (h : ∀ f ∈ fs, r.Has f.key) :
    r.takeAll fs = r := by
  induction fs with
  | nil => rfl
  | cons f fs ih =>
    rw [takeAll_cons, take_of_has (h f (by simp))]
    exact ih fun g hg => h g (List.mem_cons_of_mem _ hg)

theorem takeAll_flatMap {α : Type} (r : Registry) (f : α → List Finding) (xs : List α) :
    r.takeAll (xs.flatMap f) = xs.foldl (fun r x => r.takeAll (f x)) r := by
  induction xs generalizing r with
  | nil => rfl
  | cons x xs ih => rw [List.flatMap_cons, takeAll_append, ih, List.foldl_cons]

end Registry

/-! ## items taken once each -/

theorem unionItems_eq (arrays : List (List Json)) :
    unionItems arrays = distinctBy Json.canonical arrays.flatten := by
  rw [unionItems, distinctBy_map, List.map_map]
  exact List.map_id _

theorem Elements.of?_of_head {ss : List Shape} {first : Shape} (h : ss.head? = some first) :
    of? ss = if !first.type.isArrayText && ss.all (agrees first) then some (.same first)
      else some (.union (distinctBy TypeExpr.text (ss.map (·.type)))) := by
  cases ss with
  | nil => simp at h
  | cons a ss =>
    obtain rfl : a = first := Option.some.inj h
    rfl

namespace Infer

/-- an inference at the path does not tell `v` from `w` -/
structure Same (s : Settings) (path : Path) (v w : Json) : Prop where
  shape : shapeAt s path v = shapeAt s path w
  registry : ∀ r : Registry, r.takeAll (findings s path v) = r.takeAll (findings s path w)
  null : v.isNull = w.isNull

namespace Same

variable {s : Settings} {path : Path}

theorem refl (v : Json) : Same s path v v := ⟨rfl, fun _ => rfl, rfl⟩

theorem symm {v w : Json} (h : Same s path v w) : Same s path w v :=
  ⟨h.shape.symm, fun r => (h.registry r).symm, h.null.symm⟩

theorem trans {v w u : Json} (h : Same s path v w) (h' : Same s path w u) : Same s path v u :=
  ⟨h.shape.trans h'.shape, fun r => (h.registry r).trans (h'.registry r), h.null.trans h'.null⟩

/-- fields with the same key, and values that are not told apart -/
def Field (s : Settings) (path : Path) (p q : String × Json) : Prop :=
  p.1 = q.1 ∧ Same s (path ++ [p.1]) p.2 q.2

theorem fieldShapes_eq {fs gs : Record} (h : List.Forall₂ (Field s path) fs gs) :
    fieldShapesAt s path fs = fieldShapesAt s path gs := by
  induction h with
  | nil => rfl
  | @cons p q _ _ hpq _ ih =>
    obtain ⟨k, v⟩ := p
    obtain ⟨j, w⟩ := q
    obtain ⟨rfl, hvw⟩ : k = j ∧ Same s (path ++ [k]) v w := hpq
    rw [fieldShapesAt, fieldShapesAt, List.map_cons, List.map_cons]
    refine congrArg₂ List.cons ?_ ih
    simp only [fieldShape, hvw.null, hvw.shape]

theorem record {fs gs : Record} (h : List.Forall₂ (Field s path) fs gs) :
    Same s path (.obj fs) (.obj gs) := by
  by_cases hd : maxDepth < path.length
  · refine ⟨?_, fun r => ?_, rfl⟩
    · rw [shapeAt_deep hd, shapeAt_deep hd]
    · rw [findings_deep hd, findings_deep hd]
  have hshapes := fieldShapes_eq h
  refine ⟨?_, fun r => ?_, rfl⟩
  · rw [shapeAt_record hd, shapeAt_record hd, hshapes]
  · rw [findings_record hd, findings_record hd, declarationAt, declarationAt, hshapes,
      Registry.takeAll_append, Registry.takeAll_append]
    congr 1
    clear hshapes
    induction h generalizing r with
    | nil => rfl
    | @cons p q _ _ hpq _ ih =>
      obtain ⟨k, v⟩ := p
      obtain ⟨j, w⟩ := q
      obtain ⟨rfl, hvw⟩ : k = j ∧ Same s (path ++ [k]) v w := hpq
      rw [List.flatMap_cons, List.flatMap_cons, Registry.takeAll_append, Registry.takeAll_append,
        hvw.registry, ih]

end Same

/-! ## arrays -/

theorem arrayShape_distinctBy {κ : Type} [DecidableEq κ] {key : Json → κ} {f : Json → Shape}
    (hf : ∀ x y, key x = key y → (f x).outline = (f y).outline) (xs : List Json) :
    arrayShape ((distinctBy key xs).map f) = arrayShape (xs.map f) := by
  cases hx : xs with
  | nil => rfl
  | cons x rest =>
    rw [← hx]
    have hhead : (xs.map f).head? = some (f x) := by
      rw [hx, List.map_cons, List.head?_cons]
    have hhead' : ((distinctBy key xs).map f).head? = some (f x) := by
      rw [hx, distinctBy_cons, List.map_cons, List.head?_cons]
    have hagree : ∀ y z, key y = key z →
        Elements.agrees (f x) (f y) = true → Elements.agrees (f x) (f z) = true := by
      intro y z e h
      have ho := hf y z e
      have h1 : (f y).type = (f z).type := congrArg (·.1) ho
      have h2 : (f y).isArray = (f z).isArray := congrArg (·.2.1) ho
      have h3 : (f y).fields.length = (f z).fields.length := congrArg (·.2.2) ho
      rw [Elements.agrees, h1, h2, h3] at h
      exact h
    have hall : ((distinctBy key xs).map f).all (Elements.agrees (f x)) =
        (xs.map f).all (Elements.agrees (f x)) := by
      rw [Bool.eq_iff_iff, List.all_map, List.all_map, List.all_eq_true, List.all_eq_true]
      exact forall_mem_distinctBy hagree
    have htypes : distinctBy TypeExpr.text (((distinctBy key xs).map f).map (·.type)) =
        distinctBy TypeExpr.text ((xs.map f).map (·.type)) := by
      rw [List.map_map, List.map_map, distinctBy_map, distinctBy_map, distinctBy_distinctBy]
      intro y z e
      have ht : (f y).type = (f z).type := congrArg (·.1) (hf y z e)
      show (f y).type.text = (f z).type.text
      rw [ht]
    rw [arrayShape, arrayShape, Elements.of?_of_head hhead, Elements.of?_of_head hhead', hall,
      htypes]

theorem all_isIdValuePair_distinctBy (xs : List Json) :
    (distinctBy Json.canonical xs).all isIdValuePair = xs.all isIdValuePair := by
  rw [Bool.eq_iff_iff, List.all_eq_true, List.all_eq_true]
  refine forall_mem_distinctBy fun x y e h => ?_
  rw [← (Json.alike_of_canonical_eq e).isIdValuePair]
  exact h

/-- the registry does not notice whether repeated items are looked at -/
theorem takeAll_items_distinctBy (s : Settings) (path : Path) (xs : List Json) (r : Registry) :
    r.takeAll ((distinctBy Json.canonical xs).flatMap (findings s path)) =
      r.takeAll (xs.flatMap (findings s path)) := by
  rw [Registry.takeAll_flatMap, Registry.takeAll_flatMap]
  refine foldl_distinctBy (fun r x => ∀ f ∈ findings s path x, r.Has f.key)
    (fun r x f hf => Registry.has_takeAll_self r hf)
    (fun r x y h f hf => Registry.has_takeAll_of_has (h f hf) _) (fun r x y e h f hf => ?_)
    (fun r x h => Registry.takeAll_of_has h) xs r
  have hsub := (covers_of_alike (s := s) (Json.alike_of_canonical_eq e).symm path).2
  obtain ⟨g, hg, hk⟩ := List.mem_map.mp (hsub (List.mem_map_of_mem hf))
  exact hk ▸ h g hg

/-- an array is not told from its items taken once each -/
theorem Same.distinct {s : Settings} {path : Path} (hq : QuietItems s path) (xs : List Json) :
    Same s path (.arr (distinctBy Json.canonical xs)) (.arr xs) := by
  by_cases hd : maxDepth < path.length
  · refine ⟨?_, fun r => ?_, rfl⟩
    · rw [shapeAt_deep hd, shapeAt_deep hd]
    · rw [findings_deep hd, findings_deep hd]
  by_cases hne : xs = []
  · subst hne
    exact Same.refl _
  have hne' : distinctBy Json.canonical xs ≠ [] := by
    obtain ⟨x, rest, rfl⟩ := List.exists_cons_of_ne_nil hne
    exact List.cons_ne_nil _ _
  have hpairs := all_isIdValuePair_distinctBy xs
  cases hp : xs.all isIdValuePair with
  | true =>
    rw [hp] at hpairs
    obtain ⟨fs, v, rest, rfl, hf⟩ := exists_firstPair hne hp
    refine ⟨?_, fun r => ?_, rfl⟩
    · rw [shapeAt_pairs hd hne' hpairs, shapeAt_pairs hd hne hp, distinctBy_cons,
        pairShapeAt_cons hf, pairShapeAt_cons hf]
    · rw [findings_pairs hd hne' hpairs, findings_pairs hd hne hp, distinctBy_cons,
        pairFindings_cons hf, pairFindings_cons hf]
  | false =>
    rw [hp] at hpairs
    refine ⟨?_, fun r => ?_, rfl⟩
    · rw [shapeAt_items hd hne' hpairs, shapeAt_items hd hne hp, itemShapesAt_eq_map hq,
        itemShapesAt_eq_map hq]
      -- a repeated item may have its fields in another order, so only outlines agree
      refine arrayShape_distinctBy (fun x y e => ?_) xs
      exact (covers_of_alike (Json.alike_of_canonical_eq e) _).1
    · rw [findings_items hd hpairs, findings_items hd hp, itemFindings_eq_flatMap hq,
        itemFindings_eq_flatMap hq]
      exact takeAll_items_distinctBy s _ xs r

/-! ## nullable paths that stay out of arrays -/

/-- no step into an array is on a path at which null was seen -/
def NullsAtKeys (s : Settings) : Prop :=
  ∀ q ∈ s.nullablePaths, ∀ k ∈ q, Name.isArrayMarker k = false

theorem NullsAtKeys.quietItems {s : Settings} (h : NullsAtKeys s) (path : Path) :
    QuietItems s path := by
  intro i q hq hp
  have hmem : Name.marker i ∈ q := hp.subset (by simp)
  have hmarker := h q hq (Name.marker i) hmem
  rw [Name.isArrayMarker_marker] at hmarker
  exact Bool.noConfusion hmarker

/-- values that are not told apart are inferred alike after any progress -/
theorem Same.infer_eq {s : Settings} {path : Path} {v w : Json} (h : Same s path v w)
    (p : Progress) : (infer s path p v).1 = (infer s path p w).1 ∧
      (infer s path p v).2.registry = (infer s path p w).2.registry := by
  rw [shape_infer, shape_infer, registry_infer, registry_infer]
  exact ⟨h.shape, h.registry p.registry⟩

theorem infer_unionItems {s : Settings} (h : NullsAtKeys s) (path : Path) (p : Progress) :
    (∀ xs, (infer s path p (.arr (unionItems [xs]))).1 = (infer s path p (.arr xs)).1 ∧
      (infer s path p (.arr (unionItems [xs]))).2.registry =
        (infer s path p (.arr xs)).2.registry) ∧
    ∀ i j v, (infer s (path ++ [Name.marker i]) p v).1 = (infer s (path ++ [Name.marker j]) p v).1 ∧
      (infer s (path ++ [Name.marker i]) p v).2.registry =
        (infer s (path ++ [Name.marker j]) p v).2.registry := by
  have hq := h.quietItems path
  constructor
  · intro xs
    have hunion : unionItems [xs] = distinctBy Json.canonical xs := by
      rw [unionItems_eq, List.flatten_singleton]
    rw [hunion]
    exact (Same.distinct hq xs).infer_eq p
  · intro i j v
    have hkeys := (Name.SameKeys.refl path).step i j
    obtain ⟨hshape, hfindings⟩ := steady s v _ _ hkeys (hq i) (hq j)
    rw [shape_infer, shape_infer, registry_infer, registry_infer, hshape, hfindings]
    exact ⟨rfl, rfl⟩

theorem infer_unionItems_twice :
    let s : Settings := { nullablePaths := [["tags", "name"]] }
    let x : Json := .arr [.int 1]
    NullsAtKeys s ∧ unionItems [[x, x]] = [x] ∧
      (infer s ["tags"] {} (.arr [x])).1 = (infer s ["tags"] {} (.arr [x, x])).1 := by
  intro s x
  have hs : NullsAtKeys s := by
    intro q hq k hk
    obtain rfl := List.mem_singleton.mp hq
    simp only [List.mem_cons, List.not_mem_nil, or_false] at hk
    rcases hk with rfl | rfl <;> rfl
  have hone : unionItems [[x, x]] = [x] := by rfl
  exact ⟨hs, hone, hone ▸ ((infer_unionItems hs ["tags"] {}).1 [x, x]).1⟩

end Infer

end SampleTypes
