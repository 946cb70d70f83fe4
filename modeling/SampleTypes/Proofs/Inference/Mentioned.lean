import SampleTypes.Proofs.Inference.Layers

/-!
# The names that an inferred type mentions

* `names_arrayShape`  the type of an array mentions what the types of its items do;
* `names_shapeAt`     a type mentions basic types, records and the generic type, no others.
-/

namespace SampleTypes

namespace Infer

open TypeExpr (IsBasic)

theorem names_union (ts : List TypeExpr) :
    ∀ n ∈ (Elements.union ts).shape.type.names, ∃ t ∈ ts, n ∈ t.names := by
  have hall : ∀ n, n ∈ (TypeExpr.union ts).names → ∃ t ∈ ts, n ∈ t.names := by
    intro n hn
    rw [TypeExpr.names, TypeExpr.namesOfAll_eq_flatMap] at hn
    exact List.mem_flatMap.mp hn
  intro n hn
  match ts with
  | [t] =>
    have hn : n ∈ (TypeExpr.array t).names := hn
    rw [TypeExpr.names] at hn
    exact ⟨t, List.mem_singleton_self t, hn⟩
  | [] => exact hall n hn
  | t :: u :: ts => exact hall n hn

/-- the type of an array mentions what the types of its items do -/
theorem names_arrayShape (ss : List Shape) : ∀ n ∈ (arrayShape ss).type.names,
    IsBasic n ∨ ∃ t ∈ ss, n ∈ t.type.names := by
  intro n hn
  cases ss with
  | nil => exact .inl (.inl (List.mem_singleton.mp hn))
  | cons first rest =>
    right
    rw [arrayShape, Elements.of?] at hn
    split at hn
    · have hn : n ∈ (TypeExpr.array first.type).names := hn
      rw [TypeExpr.names] at hn
      exact ⟨first, List.mem_cons_self, hn⟩
    · obtain ⟨t, ht, hn⟩ := names_union _ n hn
      obtain ⟨u, hu, rfl⟩ := List.mem_map.mp (mem_of_mem_distinctBy ht)
      exact ⟨u, hu, hn⟩

theorem exists_item_of_mem {s : Settings} {path : Path} {xs : List Json} {i : Nat} {t : Shape}
    (h : t ∈ itemShapesAt s path i xs) : ∃ x ∈ xs, ∃ q, t = shapeAt s q x := by
  induction xs generalizing i with
  | nil => simp [itemShapesAt] at h
  | cons x xs ih =>
    rw [itemShapesAt] at h
    rcases List.mem_cons.mp h with rfl | h
    · exact ⟨x, List.mem_cons_self, _, rfl⟩
    · obtain ⟨y, hy, hq⟩ := ih h
      exact ⟨y, List.mem_cons_of_mem x hy, hq⟩

/-- the type of a value mentions basic types, records, and the generic type -/
theorem names_shapeAt {s : Settings} {P : String → Prop} (hbasic : ∀ n, IsBasic n → P n)
    (hrecord : ∀ path, P (Name.recordName s.affixes path))
    (hgeneric : P (Name.idValueName s.affixes)) (path : Path) (v : Json) :
    ∀ n ∈ (shapeAt s path v).type.names, P n := by
  have hunknown : ∀ n ∈ TypeExpr.unknown.names, P n := fun n hn =>
    hbasic n (.inl (List.mem_singleton.mp hn))
  induction path, v using Infer.induction with
  | deep path v hd =>
    rw [shapeAt_deep hd]
    exact hunknown
  | leaf path v hd hv =>
    rw [shapeAt_leaf hd hv, leafShape]
    split
    · exact hunknown
    · exact fun n hn => hbasic n (.inr ⟨_, List.mem_singleton.mp hn⟩)
  | empty path hd =>
    rw [shapeAt_empty hd]
    exact hunknown
  | pairs path xs hd hne hp ih =>
    obtain ⟨fs, v, rest, rfl, hf⟩ := exists_firstPair hne hp
    rw [shapeAt_pairs hd hne hp, pairShapeAt_cons hf]
    have hvalue := ih fs v (by simp) hf (pairPath path 0)
    intro n hn
    have hn : n ∈ (if (shapeAt s (pairPath path 0) v).type.text = "string"
        then TypeExpr.name (Name.idValueName s.affixes)
        else .apply (Name.idValueName s.affixes) (shapeAt s (pairPath path 0) v).type).names := hn
    split at hn
    · rw [List.mem_singleton.mp hn]
      exact hgeneric
    · rw [TypeExpr.names] at hn
      rcases List.mem_cons.mp hn with rfl | hn
      · exact hgeneric
      · exact hvalue n hn
  | items path xs hd hne hp ih =>
    rw [shapeAt_items hd hne hp]
    intro n hn
    rcases names_arrayShape _ n hn with hn | ⟨t, ht, hn⟩
    · exact hbasic n hn
    · obtain ⟨x, hx, q, rfl⟩ := exists_item_of_mem ht
      exact ih x hx q n hn
  | record path fs hd _ =>
    rw [shapeAt_record hd]
    intro n hn
    rw [List.mem_singleton.mp hn]
    exact hrecord path

end Infer

end SampleTypes
