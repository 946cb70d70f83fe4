import SampleTypes.Proofs.Inference.Findings
import SampleTypes.Proofs.Json.Alike
import SampleTypes.Proofs.Shape.Name

/-!
# What a shape does not depend on

* `Quiet s p`           at no path that begins with `p` was null seen;
* `steady`              on quiet paths the indices of the steps into arrays do not count, neither
                        for the shape of a value nor for its findings;
* `outline`             what the type of an array takes from the shapes of its items;
* `covers_of_alike`     the order of fields does not count for the outline of a value, nor for the
                        keys that are registered for it.
-/

namespace SampleTypes

namespace Infer

/-! ## quiet paths -/

/-- at no path that begins with `path` was null seen -/
def Quiet (s : Settings) (path : Path) : Prop := ∀ q ∈ s.nullablePaths, ¬ path <+: q

theorem Quiet.append {s : Settings} {path : Path} (h : Quiet s path) (r : Path) :
    Quiet s (path ++ r) := fun q hq hp => h q hq ((List.prefix_append path r).trans hp)

theorem Quiet.contains {s : Settings} {path : Path} (h : Quiet s path) :
    s.nullablePaths.contains path = false := by
  rw [Bool.eq_false_iff, ne_eq, List.contains_iff_mem]
  exact fun hm => h path hm (List.prefix_refl path)

/-- the items of an array at a path stand on quiet paths -/
def QuietItems (s : Settings) (path : Path) : Prop := ∀ i, Quiet s (path ++ [Name.marker i])

theorem Quiet.items {s : Settings} {path : Path} (h : Quiet s path) : QuietItems s path :=
  fun i => h.append [Name.marker i]

theorem QuietItems.pair {s : Settings} {path : Path} (h : QuietItems s path) (i : Nat) :
    Quiet s (pairPath path i) := by
  have := (h i).append ["value"]
  rwa [List.append_assoc] at this

/-! ## steps into arrays -/

/-- on quiet paths with the same keys a value has one shape and the same findings -/
def Steady (s : Settings) (v : Json) : Prop :=
  ∀ p q, Name.SameKeys p q → Quiet s p → Quiet s q →
    shapeAt s p v = shapeAt s q v ∧ findings s p v = findings s q v

theorem itemShapesAt_steady {s : Settings} {xs : List Json} (h : ∀ x ∈ xs, Steady s x)
    {p q : Path} (hk : Name.SameKeys p q) (hp : QuietItems s p) (hq : QuietItems s q) (i : Nat) :
    itemShapesAt s p i xs = xs.map (shapeAt s (q ++ [Name.marker 0])) ∧
      itemFindings s p i xs = xs.flatMap (findings s (q ++ [Name.marker 0])) := by
  induction xs generalizing i with
  | nil => exact ⟨rfl, by simp [itemFindings]⟩
  | cons x xs ih =>
    obtain ⟨h1, h2⟩ := h x (by simp) _ _ (hk.step i 0) (hp i) (hq 0)
    obtain ⟨ih1, ih2⟩ := ih (fun y hy => h y (List.mem_cons_of_mem _ hy)) (i + 1)
    rw [itemShapesAt, itemFindings, h1, h2, ih1, ih2, List.map_cons, List.flatMap_cons]
    exact ⟨rfl, rfl⟩

theorem pairs_steady {s : Settings} {xs : List Json} (hne : xs ≠ [])
    (hp : xs.all isIdValuePair = true)
    (h : ∀ fs v, .obj fs ∈ xs → PairFields fs v → Steady s v) {p q : Path}
    (hk : Name.SameKeys p q) (hqp : QuietItems s p) (hqq : QuietItems s q) :
    pairShapeAt s p xs = pairShapeAt s q xs ∧
      pairFindings s (pairPath p 0) xs = pairFindings s (pairPath q 0) xs := by
  obtain ⟨fs, v, rest, rfl, hf⟩ := exists_firstPair hne hp
  rw [pairShapeAt_cons hf, pairShapeAt_cons hf, pairFindings_cons hf, pairFindings_cons hf]
  exact h fs v (by simp) hf _ _ (hk.append _) (hqp.pair 0) (hqq.pair 0)

theorem steady (s : Settings) (v : Json) : Steady s v := by
  intro p
  induction p, v using Infer.induction with
  | deep p v hd =>
    intro q hk _ _
    have hd' : maxDepth < q.length := hk.1 ▸ hd
    rw [shapeAt_deep hd, shapeAt_deep hd', findings_deep hd, findings_deep hd']
    exact ⟨rfl, rfl⟩
  | leaf p v hd hv =>
    intro q hk _ _
    have hd' : ¬ maxDepth < q.length := hk.1 ▸ hd
    rw [shapeAt_leaf hd hv, shapeAt_leaf hd' hv, findings_leaf hv, findings_leaf hv]
    exact ⟨rfl, rfl⟩
  | empty p hd =>
    intro q hk _ _
    have hd' : ¬ maxDepth < q.length := hk.1 ▸ hd
    rw [shapeAt_empty hd, shapeAt_empty hd', findings_empty, findings_empty]
    exact ⟨rfl, rfl⟩
  | pairs p xs hd hne hall ih =>
    intro q hk hp hq
    have hd' : ¬ maxDepth < q.length := hk.1 ▸ hd
    obtain ⟨h1, h2⟩ := pairs_steady hne hall ih hk hp.items hq.items
    rw [shapeAt_pairs hd hne hall, shapeAt_pairs hd' hne hall, findings_pairs hd hne hall,
      findings_pairs hd' hne hall, h1, h2]
    exact ⟨rfl, rfl⟩
  | items p xs hd hne hall ih =>
    intro q hk hp hq
    have hd' : ¬ maxDepth < q.length := hk.1 ▸ hd
    obtain ⟨h1, h2⟩ := itemShapesAt_steady ih hk hp.items hq.items 0
    -- both are compared with all items at index 0 below `q`
    obtain ⟨h3, h4⟩ := itemShapesAt_steady ih (Name.SameKeys.refl q) hq.items hq.items 0
    rw [shapeAt_items hd hne hall, shapeAt_items hd' hne hall, findings_items hd hall,
      findings_items hd' hall, h1, h2, h3, h4]
    exact ⟨rfl, rfl⟩
  | record p fs hd ih =>
    intro q hk hp hq
    have hd' : ¬ maxDepth < q.length := hk.1 ▸ hd
    have hf : ∀ r ∈ fs, shapeAt s (p ++ [r.1]) r.2 = shapeAt s (q ++ [r.1]) r.2 ∧
        findings s (p ++ [r.1]) r.2 = findings s (q ++ [r.1]) r.2 := fun r hr =>
      ih r hr _ _ (hk.append [r.1]) (hp.append [r.1]) (hq.append [r.1])
    have hfields : fieldShapesAt s p fs = fieldShapesAt s q fs := by
      refine List.map_congr_left fun r hr => ?_
      rw [fieldShape, fieldShape, (hp.append [r.1]).contains, (hq.append [r.1]).contains,
        (hf r hr).1]
    have hbelow : (fs.flatMap fun r => findings s (p ++ [r.1]) r.2) =
        fs.flatMap fun r => findings s (q ++ [r.1]) r.2 :=
      List.flatMap_congr fun r hr => (hf r hr).2
    rw [shapeAt_record hd, shapeAt_record hd', findings_record hd, findings_record hd', hbelow,
      declarationAt, declarationAt, hk.recordName_eq, hfields]
    exact ⟨rfl, rfl⟩

/-- the items of an array on quiet paths can be looked at as if all stood at index 0 -/
theorem itemShapesAt_eq_map {s : Settings} {path : Path} (h : QuietItems s path) (xs : List Json)
    (i : Nat) : itemShapesAt s path i xs = xs.map (shapeAt s (path ++ [Name.marker 0])) :=
  (itemShapesAt_steady (fun x _ => steady s x) (Name.SameKeys.refl path) h h i).1

theorem itemFindings_eq_flatMap {s : Settings} {path : Path} (h : QuietItems s path)
    (xs : List Json) (i : Nat) :
    itemFindings s path i xs = xs.flatMap (findings s (path ++ [Name.marker 0])) :=
  (itemShapesAt_steady (fun x _ => steady s x) (Name.SameKeys.refl path) h h i).2

end Infer

/-! ## the order of fields -/

/-- what the type of an array takes from the shape of an item -/
def Shape.outline (s : Shape) : TypeExpr × Bool × Nat := (s.type, s.isArray, s.fields.length)

theorem Elements.all_agrees (first : Shape) (ss : List Shape) :
    ss.all (agrees first) = (ss.map Shape.outline).all fun o =>
      o.1.text == first.outline.1.text && !o.2.1 && o.2.2 == first.outline.2.2 := by
  rw [List.all_map]
  rfl

namespace Infer

/-- the outline of an array comes from the outlines of its items -/
theorem outline_arrayShape {ss ts : List Shape} (h : ss.map Shape.outline = ts.map Shape.outline) :
    (arrayShape ss).outline = (arrayShape ts).outline := by
  have htypes : ss.map (·.type) = ts.map (·.type) := by
    have := congrArg (List.map fun o => o.1) h
    rw [List.map_map, List.map_map] at this
    exact this
  cases ss with
  | nil =>
    obtain rfl : ts = [] := by simpa using h.symm
    rfl
  | cons a ss =>
    cases ts with
    | nil => simp at h
    | cons b ts =>
      have hab : a.outline = b.outline := by
        rw [List.map_cons, List.map_cons] at h
        exact (List.cons.inj h).1
      have hta : a.type = b.type := congrArg (·.1) hab
      have hlen : a.fields.length = b.fields.length := congrArg (·.2.2) hab
      have hall : (a :: ss).all (Elements.agrees a) = (b :: ts).all (Elements.agrees b) := by
        rw [Elements.all_agrees, Elements.all_agrees, h, hab]
      rw [arrayShape, arrayShape, Elements.of?, Elements.of?, hall, htypes, hta]
      split
      · show (TypeExpr.array a.type, true, a.fields.length) = (.array b.type, true, b.fields.length)
        rw [hta, hlen]
      · rfl

/-- items alike are pairs of id and value together -/
theorem pairs_of_alike {xs ys : List Json} (h : List.Forall₂ Json.Alike xs ys) (hne : xs ≠ []) :
    ys ≠ [] ∧ xs.all isIdValuePair = ys.all isIdValuePair := by
  refine ⟨fun e => hne (List.forall₂_nil_right_iff.mp (e ▸ h)), ?_⟩
  clear hne
  induction h with
  | nil => rfl
  | cons hx _ ih => rw [List.all_cons, List.all_cons, ih, hx.isIdValuePair]

/-- the first pairs of two arrays alike have values alike -/
theorem exists_firstPairs {xs ys : List Json} (h : List.Forall₂ Json.Alike xs ys) (hne : xs ≠ [])
    (hp : xs.all isIdValuePair = true) : ∃ fs v rest gs w rest',
      xs = .obj fs :: rest ∧ PairFields fs v ∧ ys = .obj gs :: rest' ∧ PairFields gs w ∧
        Json.Alike v w := by
  obtain ⟨fs, v, rest, rfl, hf⟩ := exists_firstPair hne hp
  obtain ⟨y, rest', hx, _, rfl⟩ := List.forall₂_cons_left_iff.mp h
  obtain ⟨w, hw, hvw⟩ := hx.pair (pairValue?_eq_some_iff.mpr ⟨fs, rfl, hf⟩)
  obtain ⟨gs, rfl, hg⟩ := pairValue?_eq_some_iff.mp hw
  exact ⟨fs, v, rest, gs, w, rest', rfl, hf, rfl, hg, hvw⟩

/-- the keys of what is registered for a value -/
def keysFound (s : Settings) (path : Path) (v : Json) : List (Option String) :=
  (findings s path v).map Finding.key

/-- the shape of `w` has the outline of that of `v`, and no fewer keys are registered for `w` -/
def Covers (s : Settings) (v w : Json) : Prop :=
  ∀ path, (shapeAt s path v).outline = (shapeAt s path w).outline ∧
    keysFound s path v ⊆ keysFound s path w

theorem items_covers {s : Settings} {xs ys : List Json} (h : List.Forall₂ Json.Alike xs ys)
    (ih : ∀ x ∈ xs, ∀ y, Json.Alike x y → Covers s x y) (path : Path) (i : Nat) :
    (itemShapesAt s path i xs).map Shape.outline = (itemShapesAt s path i ys).map Shape.outline ∧
      (itemFindings s path i xs).map Finding.key ⊆ (itemFindings s path i ys).map Finding.key := by
  induction h generalizing i with
  | nil => exact ⟨rfl, List.Subset.refl _⟩
  | cons hx _ ihs =>
    obtain ⟨h1, h2⟩ := ih _ (by simp) _ hx (path ++ [Name.marker i])
    obtain ⟨h3, h4⟩ := ihs (fun x hm => ih x (List.mem_cons_of_mem _ hm)) (i + 1)
    rw [itemShapesAt, itemShapesAt, itemFindings, itemFindings, List.map_append, List.map_append,
      List.map_cons, List.map_cons, h1, h3]
    exact ⟨rfl, List.append_subset.mpr
      ⟨List.subset_append_of_subset_left _ h2, List.subset_append_of_subset_right _ h4⟩⟩

theorem leafShape_of_alike {v w : Json} (h : Json.Alike v w) (hv : v.isLeaf = true) :
    w.isLeaf = true ∧ leafShape v = leafShape w := by
  cases v with
  | null | bool | int | str =>
    rw [Json.Alike] at h
    subst h
    exact ⟨rfl, rfl⟩
  | float x =>
    rw [Json.Alike] at h
    obtain ⟨y, rfl, _⟩ := h
    exact ⟨rfl, rfl⟩
  | arr | obj => exact Bool.noConfusion hv

/-- the order of fields does not count for the outline of a value and the keys registered -/
theorem covers_of_alike {s : Settings} {v w : Json} (h : Json.Alike v w) : Covers s v w := by
  intro path
  induction path, v using Infer.induction generalizing w with
  | deep path v hd =>
    rw [shapeAt_deep hd, shapeAt_deep hd, keysFound, keysFound, findings_deep hd,
      findings_deep hd]
    exact ⟨rfl, List.Subset.refl _⟩
  | leaf path v hd hv =>
    obtain ⟨hw, e⟩ := leafShape_of_alike h hv
    rw [shapeAt_leaf hd hv, shapeAt_leaf hd hw, keysFound, keysFound, findings_leaf hv,
      findings_leaf hw, e]
    exact ⟨rfl, List.Subset.refl _⟩
  | empty path hd =>
    obtain ⟨ys, rfl, hxs⟩ := Json.alike_arr_iff.mp h
    obtain rfl := List.forall₂_nil_left_iff.mp hxs
    exact ⟨rfl, List.Subset.refl _⟩
  | pairs path xs hd hne hp ih =>
    obtain ⟨ys, rfl, hxs⟩ := Json.alike_arr_iff.mp h
    obtain ⟨hne', hall⟩ := pairs_of_alike hxs hne
    rw [hp] at hall
    -- the first pair alone is looked at, on either side
    obtain ⟨fs, v, rest, gs, w, rest', rfl, hf, rfl, hg, hvw⟩ := exists_firstPairs hxs hne hp
    obtain ⟨h1, h2⟩ := ih fs v (by simp) hf (pairPath path 0) hvw
    have ht : (shapeAt s (pairPath path 0) v).type = (shapeAt s (pairPath path 0) w).type :=
      congrArg (·.1) h1
    rw [shapeAt_pairs hd hne hp, shapeAt_pairs hd hne' hall.symm, keysFound, keysFound,
      findings_pairs hd hne hp, findings_pairs hd hne' hall.symm, pairShapeAt_cons hf,
      pairShapeAt_cons hg, pairFindings_cons hf, pairFindings_cons hg, ht, List.map_append,
      List.map_append]
    exact ⟨rfl, List.append_subset.mpr ⟨List.subset_append_of_subset_left _ h2,
      List.subset_append_right _ _⟩⟩
  | items path xs hd hne hp ih =>
    obtain ⟨ys, rfl, hxs⟩ := Json.alike_arr_iff.mp h
    obtain ⟨hne', hall⟩ := pairs_of_alike hxs hne
    rw [hp] at hall
    obtain ⟨h1, h2⟩ := items_covers hxs (fun x hx y hxy q => ih x hx q hxy) path 0
    rw [shapeAt_items hd hne hp, shapeAt_items hd hne' hall.symm, keysFound, keysFound,
      findings_items hd hp, findings_items hd hall.symm]
    exact ⟨outline_arrayShape h1, h2⟩
  | record path fs hd ih =>
    obtain ⟨gs, hs, rfl, hfs, hperm⟩ := Json.alike_obj_iff.mp h
    have hlen : fs.length = gs.length := hfs.length_eq.trans hperm.length_eq
    rw [shapeAt_record hd, shapeAt_record hd, keysFound, keysFound, findings_record hd,
      findings_record hd, List.map_append, List.map_append]
    refine ⟨?_, List.append_subset.mpr ⟨?_, List.subset_append_right _ _⟩⟩
    · simp only [Shape.outline, fieldShapesAt, List.length_map, hlen]
    · refine List.subset_append_of_subset_left _ fun k hk => ?_
      obtain ⟨f, hf, rfl⟩ := List.mem_map.mp hk
      obtain ⟨p, hp, hfp⟩ := List.mem_flatMap.mp hf
      obtain ⟨q, hq, hkey, hpq⟩ := Json.exists_alikeField_of_mem hfs hperm hp
      have hsub := (ih p hp (path ++ [p.1]) hpq).2 (List.mem_map_of_mem hfp)
      rw [hkey] at hsub
      obtain ⟨g, hg, hgf⟩ := List.mem_map.mp hsub
      rw [← hgf]
      exact List.mem_map_of_mem (List.mem_flatMap.mpr ⟨q, hq, hg⟩)

end Infer

end SampleTypes
