import SampleTypes.Proofs.Inference.Repeats

/-!
# What an inference adds to the registry

The walk over a value looks at some of the values inside it, each after those below it.  What it
adds to the registry is read off this list: the declarations of the records in it, in its order,
without those of names that are taken.

* `visits p v`             the values that are looked at, with their paths;
* `findings_eq_visits`     what is found comes from these values alone, in their order;
* `declarations_takeAll`   the declarations of a registry with findings taken in;
* `infer_registers`        the shape does not depend on the registry, and the registry afterwards
                           is the one before with the declarations that are new.
-/

namespace SampleTypes

/-- whether a value is an array of pairs of an id and a value -/
def Json.isPairs : Json → Bool
  | .arr xs => !xs.isEmpty && xs.all isIdValuePair
  | _ => false

namespace Infer

mutual

/-- the values that an inference at a path looks at, each after those below it: of an array of
pairs the value of the first pair, and nothing on a path that is too long -/
def visits (path : Path) (v : Json) : List (Path × Json) :=
  if maxDepth < path.length then []
  else match v with
    | .arr xs =>
      (if xs.all isIdValuePair then pairVisits (pairPath path 0) xs else itemVisits path 0 xs) ++
        [(path, .arr xs)]
    | .obj fs => fieldVisits path fs ++ [(path, .obj fs)]
    | v => [(path, v)]

def itemVisits (path : Path) (index : Nat) : List Json → List (Path × Json)
  | [] => []
  | x :: xs => visits (path ++ [Name.marker index]) x ++ itemVisits path (index + 1) xs

def fieldVisits (path : Path) : List (String × Json) → List (Path × Json)
  | [] => []
  | (k, v) :: fs => visits (path ++ [k]) v ++ fieldVisits path fs

/-- the visits for the value of the first pair -/
def pairVisits (path : Path) : List Json → List (Path × Json)
  | .obj fs :: _ => valueVisits path fs
  | _ => []

def valueVisits (path : Path) : List (String × Json) → List (Path × Json)
  | [] => []
  | (k, v) :: fs => if k = "value" then visits path v else valueVisits path fs

end

theorem valueVisits_eq {fs : Record} {v : Json} (h : PairFields fs v) (path : Path) :
    valueVisits path fs = visits path v := h.eq_of_cons fun k v fs => by rw [valueVisits]

/-- what holds of all visits for each item holds of the visits for all items -/
theorem forall_mem_itemVisits {P : Path × Json → Prop} {path : Path} {xs : List Json}
    (h : ∀ x ∈ xs, ∀ i, ∀ y ∈ visits (path ++ [Name.marker i]) x, P y) (i : Nat) :
    ∀ y ∈ itemVisits path i xs, P y := by
  induction xs generalizing i with
  | nil => simp [itemVisits]
  | cons x xs ih =>
    obtain ⟨hx, hxs⟩ := List.forall_mem_cons.mp h
    rw [itemVisits]
    exact List.forall_mem_append.mpr ⟨hx i, ih hxs (i + 1)⟩

theorem fieldVisits_eq_flatMap (path : Path) (fs : Record) :
    fieldVisits path fs = fs.flatMap fun p => visits (path ++ [p.1]) p.2 := by
  induction fs with
  | nil => rw [fieldVisits, List.flatMap_nil]
  | cons p fs ih =>
    obtain ⟨k, v⟩ := p
    rw [fieldVisits, ih, List.flatMap_cons]

section
variable {path : Path}

theorem visits_deep (h : maxDepth < path.length) (v : Json) : visits path v = [] := by
  rw [visits.eq_def, if_pos h]

theorem visits_leaf (h : ¬ maxDepth < path.length) {v : Json} (hv : v.isLeaf = true) :
    visits path v = [(path, v)] := by
  cases v with
  | arr | obj => exact Bool.noConfusion hv
  | null | bool | int | float | str => rw [visits.eq_def, if_neg h]

theorem visits_pairs (h : ¬ maxDepth < path.length) {fs : Record} {v : Json}
    (hf : PairFields fs v) {rest : List Json}
    (hp : (Json.obj fs :: rest).all isIdValuePair = true) :
    visits path (.arr (.obj fs :: rest)) =
      visits (pairPath path 0) v ++ [(path, .arr (.obj fs :: rest))] := by
  rw [visits, if_neg h, if_pos hp, pairVisits, valueVisits_eq hf]

theorem visits_items (h : ¬ maxDepth < path.length) {xs : List Json}
    (hp : xs.all isIdValuePair = false) :
    visits path (.arr xs) = itemVisits path 0 xs ++ [(path, .arr xs)] := by
  rw [visits, if_neg h, if_neg (by simp [hp])]

theorem visits_record (h : ¬ maxDepth < path.length) (fs : Record) :
    visits path (.obj fs) = fieldVisits path fs ++ [(path, .obj fs)] := by
  rw [visits, if_neg h]

end

/-- the values that are looked at stand at the path of the inference or below it -/
theorem prefix_of_mem_visits (path : Path) (v : Json) : ∀ x ∈ visits path v, path <+: x.1 := by
  induction path, v using Infer.induction with
  | deep path v hd =>
    rw [visits_deep hd]
    simp
  | leaf path v hd hv =>
    rw [visits_leaf hd hv]
    exact List.forall_mem_singleton.mpr List.prefix_rfl
  | empty path hd =>
    rw [visits, if_neg hd]
    exact List.forall_mem_singleton.mpr List.prefix_rfl
  | pairs path xs hd hne hp ih =>
    obtain ⟨fs, v, rest, rfl, hf⟩ := exists_firstPair hne hp
    rw [visits_pairs hd hf hp]
    refine List.forall_mem_append.mpr ⟨fun x hx => ?_,
      List.forall_mem_singleton.mpr List.prefix_rfl⟩
    exact (List.prefix_append _ _).trans (ih fs v List.mem_cons_self hf _ x hx)
  | items path xs hd hne hp ih =>
    rw [visits_items hd hp]
    refine List.forall_mem_append.mpr ⟨forall_mem_itemVisits (fun x hx i y hy => ?_) 0,
      List.forall_mem_singleton.mpr List.prefix_rfl⟩
    exact (List.prefix_append _ _).trans (ih x hx _ y hy)
  | record path fs hd ih =>
    rw [visits_record hd, fieldVisits_eq_flatMap]
    refine List.forall_mem_append.mpr ⟨fun x hx => ?_,
      List.forall_mem_singleton.mpr List.prefix_rfl⟩
    obtain ⟨p, hp, hx⟩ := List.mem_flatMap.mp hx
    exact (List.prefix_append _ _).trans (ih p hp _ x hx)

/-- the declaration of a visited record -/
def declaration? (s : Settings) : Path × Json → Option TypeDecl
  | (path, .obj fs) => some (declarationAt s path fs)
  | _ => none

/-- the declaration in a finding -/
def Finding.declaration? : Finding → Option TypeDecl
  | .record d => some d
  | .generic _ => none

/-- what is found at a visited value -/
def found (s : Settings) (visit : Path × Json) : List Finding :=
  (declaration? s visit).toList.map .record ++
    if visit.2.isPairs then [.generic (Name.idValueName s.affixes)] else []

theorem found_obj (s : Settings) (path : Path) (fs : Record) :
    found s (path, .obj fs) = [.record (declarationAt s path fs)] := rfl

theorem found_arr (s : Settings) (path : Path) (xs : List Json) :
    found s (path, .arr xs) =
      if !xs.isEmpty && xs.all isIdValuePair then [.generic (Name.idValueName s.affixes)]
      else [] := rfl

section
variable {s : Settings}

theorem itemFindings_eq_visits {xs : List Json}
    (h : ∀ x ∈ xs, ∀ path, findings s path x = (visits path x).flatMap (found s)) (path : Path)
    (i : Nat) : itemFindings s path i xs = (itemVisits path i xs).flatMap (found s) := by
  induction xs generalizing i with
  | nil => rw [itemFindings, itemVisits, List.flatMap_nil]
  | cons x xs ih =>
    have hxs := ih (fun y hy => h y (List.mem_cons_of_mem _ hy)) (i + 1)
    rw [itemFindings, itemVisits, List.flatMap_append, hxs, h x List.mem_cons_self]

theorem fieldFindings_eq_visits {fs : Record}
    (h : ∀ p ∈ fs, ∀ path, findings s path p.2 = (visits path p.2).flatMap (found s))
    (path : Path) : fieldFindings s path fs = (fieldVisits path fs).flatMap (found s) := by
  induction fs with
  | nil => rw [fieldFindings, fieldVisits, List.flatMap_nil]
  | cons p fs ih =>
    obtain ⟨k, v⟩ := p
    have hfs := ih fun q hq => h q (List.mem_cons_of_mem _ hq)
    have hv : findings s (path ++ [k]) v = _ := h (k, v) List.mem_cons_self (path ++ [k])
    rw [fieldFindings, fieldVisits, List.flatMap_append, hfs, hv]

/-- what is found comes from the visited values, in their order -/
theorem findings_eq_visits (s : Settings) (path : Path) (v : Json) :
    findings s path v = (visits path v).flatMap (found s) := by
  induction path, v using Infer.induction with
  | deep path v hd => rw [findings_deep hd, visits_deep hd, List.flatMap_nil]
  | leaf path v hd hv =>
    rw [findings_leaf hv, visits_leaf hd hv, List.flatMap_singleton]
    cases v with
    | arr | obj => exact Bool.noConfusion hv
    | null | bool | int | float | str => rfl
  | empty path hd =>
    rw [findings_empty, visits, if_neg hd]
    rfl
  | pairs path xs hd hne hp ih =>
    obtain ⟨fs, v, rest, rfl, hf⟩ := exists_firstPair hne hp
    have hv := ih fs v List.mem_cons_self hf (pairPath path 0)
    rw [findings_pairs hd hne hp, pairFindings_cons hf, hv, visits_pairs hd hf hp,
      List.flatMap_append, List.flatMap_singleton, found_arr, hp]
    rfl
  | items path xs hd hne hp ih =>
    have hxs := itemFindings_eq_visits ih path 0
    rw [findings_items hd hp, hxs, visits_items hd hp, List.flatMap_append,
      List.flatMap_singleton, found_arr, hp, Bool.and_false, if_neg (by simp), List.append_nil]
  | record path fs hd ih =>
    have hfs := fieldFindings_eq_visits ih path
    rw [findings_record hd, ← fieldFindings_eq_flatMap, hfs, visits_record hd,
      List.flatMap_append, List.flatMap_singleton, found_obj]

end

end Infer

namespace Registry

open Infer

theorem contains_register (r : Registry) (d : TypeDecl) (n : String) :
    (r.register d).contains n = (r.contains n || d.name == n) := by
  rw [register]
  split
  · rename_i h
    by_cases e : d.name = n
    · rw [← e, h, Bool.true_or]
    · rw [beq_eq_false_iff_ne.mpr e, Bool.or_false]
  · rw [contains, List.any_append, List.any_cons, List.any_nil, Bool.or_false, contains]

/-- the declarations of a list that are new to a registry: the first one of each name that is not
taken -/
def fresh (r : Registry) (ds : List TypeDecl) : List TypeDecl :=
  (distinctBy TypeDecl.name ds).filter fun d => !r.contains d.name

theorem fresh_cons_of_contains {r : Registry} {d : TypeDecl} (h : r.contains d.name = true)
    (ds : List TypeDecl) : r.fresh (d :: ds) = r.fresh ds := by
  rw [fresh, distinctBy_cons, List.filter_cons_of_neg (by simp [h]), List.filter_filter, fresh]
  apply List.filter_congr
  intro e _
  by_cases he : e.name = d.name
  · rw [he, h]
    rfl
  · simp [he]

theorem fresh_cons_of_not_contains {r : Registry} {d : TypeDecl} (h : r.contains d.name = false)
    (ds : List TypeDecl) : r.fresh (d :: ds) = d :: (r.register d).fresh ds := by
  rw [fresh, distinctBy_cons, List.filter_cons_of_pos (by simp [h]), List.filter_filter, fresh]
  refine congrArg (d :: ·) (List.filter_congr fun e _ => ?_)
  rw [contains_register, Bool.not_or]
  by_cases he : e.name = d.name
  · simp [he]
  · simp [he, Ne.symm he]

theorem declarations_takeAll (r : Registry) (fs : List Finding) :
    (r.takeAll fs).declarations =
      r.declarations ++ r.fresh (fs.filterMap Finding.declaration?) := by
  induction fs generalizing r with
  | nil => simp [takeAll_nil, fresh, distinctBy_nil]
  | cons f fs ih =>
    rw [takeAll_cons, ih]
    cases f with
    | generic n => rfl
    | record d =>
      show (r.register d).declarations ++ (r.register d).fresh _ =
        r.declarations ++ r.fresh (d :: _)
      cases h : r.contains d.name with
      | true =>
        have hr : r.register d = r := by rw [register, if_pos h]
        rw [hr, fresh_cons_of_contains h]
      | false =>
        have hr : (r.register d).declarations = r.declarations ++ [d] := by
          rw [register, h]
          rfl
        rw [fresh_cons_of_not_contains h, hr, List.append_assoc]
        rfl

end Registry

namespace Infer

section
variable (s : Settings)

theorem filterMap_found (visited : List (Path × Json)) :
    (visited.flatMap (found s)).filterMap Finding.declaration? =
      visited.filterMap (declaration? s) := by
  induction visited with
  | nil => rfl
  | cons x visited ih =>
    obtain ⟨path, v⟩ := x
    rw [List.flatMap_cons, List.filterMap_append, ih]
    cases v with
    | obj fs => rfl
    | arr xs =>
      rw [found_arr]
      split <;> rfl
    | null | bool | int | float | str => rfl

/-- the generic type gets its name at the first array of pairs, and keeps it -/
theorem idValueName_found (r : Registry) (visited : List (Path × Json)) :
    (r.takeAll (visited.flatMap (found s))).idValueName = r.idValueName.or
      (if visited.any (·.2.isPairs) then some (Name.idValueName s.affixes) else none) := by
  induction visited generalizing r with
  | nil => simp [Registry.takeAll_nil]
  | cons x visited ih =>
    obtain ⟨path, v⟩ := x
    rw [List.flatMap_cons, Registry.takeAll_append, ih, List.any_cons]
    cases v with
    | obj fs =>
      have hr : (r.register (declarationAt s path fs)).idValueName = r.idValueName := by
        rw [Registry.register]
        split <;> rfl
      show (r.register (declarationAt s path fs)).idValueName.or _ = _
      rw [hr]
      rfl
    | arr xs =>
      rw [found_arr]
      show _ = r.idValueName.or (if (!xs.isEmpty && xs.all isIdValuePair || _) = true then _ else _)
      cases !xs.isEmpty && xs.all isIdValuePair with
      | false => rfl
      | true =>
        show (some (r.idValueName.getD _)).or _ = _
        cases r.idValueName <;> rfl
    | null | bool | int | float | str => rfl

end

/-! ## a registry filled by one inference -/

section
variable {s : Settings} {path : Path} {v : Json}

/-- the declarations are those of the visited records, the first one of each name -/
theorem declarations_infer : (infer s path {} v).2.registry.declarations =
    distinctBy TypeDecl.name ((visits path v).filterMap (declaration? s)) := by
  rw [registry_infer, Registry.declarations_takeAll, findings_eq_visits, filterMap_found]
  exact List.filter_eq_self.mpr fun _ _ => rfl

theorem nodup_names_infer : (infer s path {} v).2.registry.names.Nodup := by
  rw [Registry.names, declarations_infer]
  exact List.pairwise_map.mpr (pairwise_distinctBy _ _)

/-- a name has the declaration of the first visited record that gets it -/
theorem get?_infer (n : String) : (infer s path {} v).2.registry.get? n =
    ((visits path v).filterMap (declaration? s)).find? (·.name == n) := by
  rw [Registry.get?, declarations_infer]
  refine find?_distinctBy (fun d e h => ?_) _
  rw [h]

theorem exists_visit_of_mem_declarations {d : TypeDecl}
    (h : d ∈ (infer s path {} v).2.registry.declarations) :
    ∃ q fs, (q, .obj fs) ∈ visits path v ∧ d = declarationAt s q fs := by
  rw [declarations_infer] at h
  obtain ⟨⟨q, w⟩, hw, e⟩ := List.mem_filterMap.mp (mem_of_mem_distinctBy h)
  cases w with
  | obj fs => exact ⟨q, fs, hw, (Option.some.inj e).symm⟩
  | null | bool | int | float | str | arr => simp [declaration?] at e

/-- the names of the records that are visited -/
theorem mem_names_infer {n : String} : n ∈ (infer s path {} v).2.registry.names ↔
    ∃ q fs, (q, .obj fs) ∈ visits path v ∧ Name.recordName s.affixes q = n := by
  constructor
  · intro h
    obtain ⟨d, hd, rfl⟩ := List.mem_map.mp h
    obtain ⟨q, fs, hq, rfl⟩ := exists_visit_of_mem_declarations hd
    exact ⟨q, fs, hq, rfl⟩
  · rintro ⟨q, fs, hq, rfl⟩
    have hf : .record (declarationAt s q fs) ∈ findings s path v := by
      rw [findings_eq_visits]
      exact List.mem_flatMap.mpr ⟨_, hq, List.mem_singleton_self _⟩
    rw [registry_infer]
    exact Registry.has_takeAll_self {} hf

theorem idValueName_infer : (infer s path {} v).2.registry.idValueName =
    if (visits path v).any (·.2.isPairs) then some (Name.idValueName s.affixes) else none := by
  rw [registry_infer, findings_eq_visits, idValueName_found]
  rfl

end

/-- The shape of a value does not depend on the registry.  The registry keeps its declarations and
takes in those of the visited records whose names are new, the first one of each name; the generic
type is named at the first array of pairs.  Inferring the value once more changes nothing. -/
theorem infer_registers (s : Settings) (path : Path) (p : Progress) (v : Json) :
    let visited := visits path v
    let shape := (infer s path p v).1
    let after := (infer s path p v).2
    (∀ q : Progress, (infer s path q v).1 = shape) ∧
      after.registry.declarations = p.registry.declarations ++
        p.registry.fresh (visited.filterMap (declaration? s)) ∧
      after.registry.idValueName = p.registry.idValueName.or
        (if visited.any (·.2.isPairs) then some (Name.idValueName s.affixes) else none) ∧
      (infer s path after v).1 = shape ∧ (infer s path after v).2.registry = after.registry := by
  intro visited shape after
  have hshape : ∀ q : Progress, (infer s path q v).1 = shape := by
    intro q
    show (infer s path q v).1 = (infer s path p v).1
    rw [shape_infer, shape_infer]
  have hafter : after.registry = p.registry.takeAll (findings s path v) := registry_infer s path p v
  have hfound : findings s path v = visited.flatMap (found s) := findings_eq_visits s path v
  refine ⟨hshape, ?_, ?_, hshape after, ?_⟩
  · rw [hafter, Registry.declarations_takeAll, hfound, filterMap_found]
  · rw [hafter, hfound, idValueName_found]
  · rw [registry_infer, hafter]
    exact Registry.takeAll_of_has fun f hf => Registry.has_takeAll_self p.registry hf

end Infer

end SampleTypes
