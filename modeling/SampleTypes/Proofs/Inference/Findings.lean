import SampleTypes.Proofs.Json.Structure
import SampleTypes.Shape.Infer

/-!
# Inference as a shape and a list of findings

The walk over a value threads the registry through, but what it does there can be told without
it: the shape of a value does not depend on the registry, and the registry afterwards is the one
before with the findings of the value taken in, one after the other.

* `shapeAt s p v`       the shape of `v` at the path `p`;
* `findings s p v`      what the walk registers: the declaration of every record after those of
                        the records below it, and the generic type for every array of pairs;
* `Registry.takeAll`    a registry with a list of findings taken in;
* `shape_infer`, `registry_infer`   the walk is made of these;
* `Infer.induction`     induction along the walk.
-/

namespace SampleTypes

namespace Infer

/-- one step of registration -/
inductive Finding where
  | record (d : TypeDecl)
  | generic (name : String)

/-- what a finding brings to a registry: a declared name, or the generic type -/
def Finding.key : Finding → Option String
  | .record d => some d.name
  | .generic _ => none

end Infer

namespace Registry

open Infer

def take (r : Registry) : Finding → Registry
  | .record d => r.register d
  | .generic n => r.registerIdValue n

def takeAll (r : Registry) (fs : List Finding) : Registry := fs.foldl take r

theorem takeAll_nil (r : Registry) : r.takeAll [] = r := rfl

theorem takeAll_append (r : Registry) (fs gs : List Finding) :
    r.takeAll (fs ++ gs) = (r.takeAll fs).takeAll gs := List.foldl_append

theorem takeAll_cons (r : Registry) (f : Finding) (fs : List Finding) :
    r.takeAll (f :: fs) = (r.take f).takeAll fs := rfl

end Registry

namespace Infer

/-- the shape of a value at a path -/
def shapeAt (s : Settings) (path : Path) (v : Json) : Shape := (infer s path {} v).1

/-- the shapes of the fields of a record at a path -/
def fieldShapesAt (s : Settings) (path : Path) (fs : Record) : List (String × Shape) :=
  fs.map fun p => (p.1, fieldShape s (path ++ [p.1]) p.2 (shapeAt s (path ++ [p.1]) p.2))

theorem type_fieldShape (s : Settings) (path : Path) (v : Json) (t : Shape) :
    (fieldShape s path v t).type = t.type := by
  rw [fieldShape]
  split <;> rfl

theorem lookup_fieldShapesAt (s : Settings) (path : Path) (fs : Record) (k : String) :
    (fieldShapesAt s path fs).lookup k = (fs.lookup k).map fun v =>
      fieldShape s (path ++ [k]) v (shapeAt s (path ++ [k]) v) := by
  induction fs with
  | nil => rfl
  | cons p fs ih =>
    obtain ⟨j, v⟩ := p
    show List.lookup k ((j, _) :: fieldShapesAt s path fs) = _
    rw [List.lookup_cons, List.lookup_cons, ih]
    by_cases h : k = j
    · subst h
      simp
    · rw [beq_eq_false_iff_ne.mpr h]

/-- the shapes of an array's items, which stand at the indices from `index` on -/
def itemShapesAt (s : Settings) (path : Path) : Nat → List Json → List Shape
  | _, [] => []
  | index, x :: xs =>
    shapeAt s (path ++ [Name.marker index]) x :: itemShapesAt s path (index + 1) xs

/-- the shape of an array, from the shapes of its items -/
def arrayShape (ss : List Shape) : Shape :=
  ((Elements.of? ss).map Elements.shape).getD .emptyArray

/-- the path of the value of the pair at an index -/
def pairPath (path : Path) (index : Nat) : Path := path ++ [Name.marker index, "value"]

/-- the shape of the value of the first pair -/
def pairShapeAt (s : Settings) (path : Path) (xs : List Json) : Shape :=
  match xs.head?.bind pairValue? with
  | some v => shapeAt s (pairPath path 0) v
  | none => .unknown

/-- the declaration of a record at a path -/
def declarationAt (s : Settings) (path : Path) (fs : Record) : TypeDecl :=
  let name := Name.recordName s.affixes path
  let fields := fieldShapesAt s path fs
  ⟨name, fields, Declaration.interfaceText name fields⟩

mutual

/-- what the inference of a value at a path registers, in order -/
def findings (s : Settings) (path : Path) (v : Json) : List Finding :=
  if maxDepth < path.length then []
  else match v with
    | .arr xs =>
      if xs.isEmpty then []
      else if xs.all isIdValuePair then
        pairFindings s (pairPath path 0) xs ++ [.generic (Name.idValueName s.affixes)]
      else itemFindings s path 0 xs
    | .obj fs => fieldFindings s path fs ++ [.record (declarationAt s path fs)]
    | _ => []

def itemFindings (s : Settings) (path : Path) (index : Nat) : List Json → List Finding
  | [] => []
  | x :: xs => findings s (path ++ [Name.marker index]) x ++ itemFindings s path (index + 1) xs

def fieldFindings (s : Settings) (path : Path) : List (String × Json) → List Finding
  | [] => []
  | (k, v) :: fs => findings s (path ++ [k]) v ++ fieldFindings s path fs

/-- what the value of the first pair registers -/
def pairFindings (s : Settings) (path : Path) : List Json → List Finding
  | .obj fs :: _ => valueFindings s path fs
  | _ => []

def valueFindings (s : Settings) (path : Path) : List (String × Json) → List Finding
  | [] => []
  | (k, v) :: fs => if k = "value" then findings s path v else valueFindings s path fs

end

theorem fieldFindings_eq_flatMap (s : Settings) (path : Path) (fs : Record) :
    fieldFindings s path fs = fs.flatMap fun p => findings s (path ++ [p.1]) p.2 := by
  induction fs with
  | nil => simp [fieldFindings]
  | cons p fs ih => obtain ⟨k, v⟩ := p; simp [fieldFindings, ih]

/-- what is found in items, each with its index -/
theorem itemFindings_eq_zipIdx (s : Settings) (path : Path) (i : Nat) (xs : List Json) :
    itemFindings s path i xs =
      (xs.zipIdx i).flatMap fun x => findings s (path ++ [Name.marker x.2]) x.1 := by
  induction xs generalizing i with
  | nil => simp [itemFindings]
  | cons x xs ih => rw [itemFindings, ih, List.zipIdx_cons, List.flatMap_cons]

/-! ## the walk split -/

/-- the walk over a value gives its shape, and takes its findings into the registry -/
def Splits (s : Settings) (v : Json) : Prop :=
  ∀ path p, (infer s path p v).1 = shapeAt s path v ∧
    (infer s path p v).2.registry = p.registry.takeAll (findings s path v)

theorem inferFields_split {s : Settings} {fs : Record} (h : ∀ q ∈ fs, Splits s q.2) (path : Path)
    (p : Progress) :
    (inferFields s path p fs).1 = fieldShapesAt s path fs ∧
      (inferFields s path p fs).2.registry = p.registry.takeAll (fieldFindings s path fs) := by
  induction fs generalizing p with
  | nil => simp [inferFields, fieldShapesAt, fieldFindings, Registry.takeAll_nil]
  | cons q fs ih =>
    obtain ⟨k, v⟩ := q
    obtain ⟨hv, hr⟩ := h (k, v) (by simp) (path ++ [k]) p
    obtain ⟨hs, hrs⟩ := ih (fun q hq => h q (List.mem_cons_of_mem _ hq))
      (infer s (path ++ [k]) p v).2
    rw [inferFields, fieldFindings, Registry.takeAll_append, ← hr]
    refine ⟨?_, hrs⟩
    show (k, _) :: (inferFields s path (infer s (path ++ [k]) p v).2 fs).1 = _
    rw [hs, hv]
    rfl

theorem inferItems_split {s : Settings} {xs : List Json} (h : ∀ x ∈ xs, Splits s x) (path : Path)
    (index : Nat) (p : Progress) :
    (inferItems s path index p xs).1 = itemShapesAt s path index xs ∧
      (inferItems s path index p xs).2.registry =
        p.registry.takeAll (itemFindings s path index xs) := by
  induction xs generalizing index p with
  | nil => simp [inferItems, itemShapesAt, itemFindings, Registry.takeAll_nil]
  | cons x xs ih =>
    obtain ⟨hv, hr⟩ := h x (by simp) (path ++ [Name.marker index]) p
    obtain ⟨hs, hrs⟩ := ih (fun y hy => h y (List.mem_cons_of_mem _ hy)) (index + 1)
      (infer s (path ++ [Name.marker index]) p x).2
    rw [inferItems, itemFindings, Registry.takeAll_append, ← hr]
    refine ⟨?_, hrs⟩
    show (infer s (path ++ [Name.marker index]) p x).1 ::
      (inferItems s path (index + 1) (infer s (path ++ [Name.marker index]) p x).2 xs).1 = _
    rw [hs, hv]
    rfl

/-- a list of pairs that is not empty begins with a pair -/
theorem exists_firstPair {xs : List Json} (hne : xs ≠ []) (hp : xs.all isIdValuePair = true) :
    ∃ fs v rest, xs = .obj fs :: rest ∧ PairFields fs v := by
  obtain ⟨x, rest, rfl⟩ := List.exists_cons_of_ne_nil hne
  obtain ⟨fs, v, rfl, hf⟩ := isIdValuePair_iff.mp (List.all_eq_true.mp hp x (by simp))
  exact ⟨fs, v, rest, rfl, hf⟩

theorem pairShapeAt_cons {fs : Record} {v : Json} (h : PairFields fs v) (s : Settings)
    (path : Path) (xs : List Json) :
    pairShapeAt s path (.obj fs :: xs) = shapeAt s (pairPath path 0) v := by
  have hv : pairValue? (.obj fs) = some v := pairValue?_eq_some_iff.mpr ⟨fs, rfl, h⟩
  rw [pairShapeAt, List.head?_cons, Option.bind_some, hv]

theorem pairFindings_cons {fs : Record} {v : Json} (h : PairFields fs v) (s : Settings)
    (path : Path) (xs : List Json) : pairFindings s path (.obj fs :: xs) = findings s path v := by
  rw [pairFindings]
  exact h.eq_of_cons fun k v fs => by rw [valueFindings]

theorem inferPairs_split {s : Settings} {xs : List Json} (hne : xs ≠ [])
    (hp : xs.all isIdValuePair = true) (h : ∀ gs, .obj gs ∈ xs → ∀ q ∈ gs, Splits s q.2)
    (path : Path) (p : Progress) :
    (inferPairs s (pairPath path 0) p xs).1 = pairShapeAt s path xs ∧
      (inferPairs s (pairPath path 0) p xs).2.registry =
        p.registry.takeAll (pairFindings s (pairPath path 0) xs) := by
  obtain ⟨fs, v, rest, rfl, hf⟩ := exists_firstPair hne hp
  have hinfer : inferValue s (pairPath path 0) p fs = infer s (pairPath path 0) p v :=
    hf.eq_of_cons fun k v fs => by rw [inferValue]
  rw [inferPairs, hinfer, pairFindings_cons hf, pairShapeAt_cons hf]
  exact h fs List.mem_cons_self ("value", v) hf.mem (pairPath path 0) p

/-! ## the walk at one value -/

section
variable {s : Settings} {path : Path} {p : Progress}

theorem infer_deep (h : maxDepth < path.length) (v : Json) :
    infer s path p v = (.unknown, { p with log := p.log ++ [tooDeep path] }) := by
  cases v <;> exact if_pos h

theorem infer_empty (h : ¬ maxDepth < path.length) :
    infer s path p (.arr []) = (.emptyArray, p) := if_neg h

theorem infer_pairs (h : ¬ maxDepth < path.length) {xs : List Json} (hne : xs.isEmpty = false)
    (hp : xs.all isIdValuePair = true) :
    infer s path p (.arr xs) = pairs s (inferPairs s (pairPath path 0) p xs).1
      (inferPairs s (pairPath path 0) p xs).2 := by
  rw [infer, if_neg h]
  simp only [hne, hp, if_true, Bool.false_eq_true, if_false]
  rfl

theorem infer_items (h : ¬ maxDepth < path.length) {xs : List Json} (hne : xs.isEmpty = false)
    (hp : xs.all isIdValuePair = false) :
    infer s path p (.arr xs) =
      (arrayShape (inferItems s path 0 p xs).1, (inferItems s path 0 p xs).2) := by
  rw [infer, if_neg h, arrayShape]
  simp only [hne, hp, Bool.false_eq_true, if_false]
  cases Elements.of? (inferItems s path 0 p xs).1 <;> rfl

theorem infer_record (h : ¬ maxDepth < path.length) (fs : Record) :
    infer s path p (.obj fs) =
      ({ type := .name (Name.recordName s.affixes path), fields := (inferFields s path p fs).1 },
        register (inferFields s path p fs).2 (Name.recordName s.affixes path)
          (inferFields s path p fs).1 path) := if_neg h

end

theorem registry_register (p : Progress) (name : String) (fields : List (String × Shape))
    (path : Path) : (register p name fields path).registry =
      p.registry.register ⟨name, fields, Declaration.interfaceText name fields⟩ := by
  rw [register, Registry.register]
  split <;> rfl

theorem splits (s : Settings) (v : Json) : Splits s v := by
  induction v using Json.induction with
  | null | bool | int | float | str =>
    intro path p
    rw [shapeAt, infer, infer, findings.eq_def]
    split <;> exact ⟨rfl, rfl⟩
  | arr xs ih ihp =>
    intro path p
    by_cases hd : maxDepth < path.length
    · rw [shapeAt, infer_deep hd, infer_deep hd, findings, if_pos hd]
      exact ⟨rfl, rfl⟩
    cases hne : xs.isEmpty with
    | true =>
      obtain rfl : xs = [] := by simpa using hne
      rw [shapeAt, infer_empty hd, infer_empty hd, findings, if_neg hd]
      exact ⟨rfl, rfl⟩
    | false =>
      cases hp : xs.all isIdValuePair with
      | true =>
        have h := inferPairs_split (fun e => by simp [e] at hne) hp ihp path
        rw [shapeAt, infer_pairs hd hne hp, infer_pairs hd hne hp, findings, if_neg hd]
        simp only [hne, hp, if_true, Bool.false_eq_true, if_false]
        rw [Registry.takeAll_append, ← (h p).2]
        refine ⟨?_, rfl⟩
        simp only [pairs, (h p).1, (h {}).1]
      | false =>
        have h := inferItems_split ih path 0
        rw [shapeAt, infer_items hd hne hp, infer_items hd hne hp, findings, if_neg hd]
        simp only [hne, hp, Bool.false_eq_true, if_false]
        exact ⟨by rw [(h p).1, (h {}).1], (h p).2⟩
  | obj fs ih =>
    intro path p
    by_cases hd : maxDepth < path.length
    · rw [shapeAt, infer_deep hd, infer_deep hd, findings, if_pos hd]
      exact ⟨rfl, rfl⟩
    · have h := inferFields_split ih path
      rw [shapeAt, infer_record hd, infer_record hd, findings, if_neg hd,
        Registry.takeAll_append, ← (h p).2]
      refine ⟨by rw [(h p).1, (h {}).1], ?_⟩
      rw [registry_register, (h p).1]
      rfl

/-- the shape of a value does not depend on the progress made before -/
theorem shape_infer (s : Settings) (path : Path) (p : Progress) (v : Json) :
    (infer s path p v).1 = shapeAt s path v := (splits s v path p).1

/-- the registry after a walk: the findings of the value, taken into the registry before -/
theorem registry_infer (s : Settings) (path : Path) (p : Progress) (v : Json) :
    (infer s path p v).2.registry = p.registry.takeAll (findings s path v) := (splits s v path p).2

/-! ## the shape of a value, case by case -/

section
variable {s : Settings} {path : Path}

theorem shapeAt_deep (h : maxDepth < path.length) (v : Json) : shapeAt s path v = .unknown := by
  rw [shapeAt, infer_deep h]

/-- the shape of a value that is neither an array nor a record -/
def leafShape (v : Json) : Shape :=
  if v.isNull then .unknown else { type := .name (Primitive.of v).name }

theorem shapeAt_leaf (h : ¬ maxDepth < path.length) {v : Json} (hv : v.isLeaf = true) :
    shapeAt s path v = leafShape v := by
  cases v with
  | arr | obj => exact Bool.noConfusion hv
  | null | bool | int | float | str => rw [shapeAt]; exact congrArg Prod.fst (if_neg h)

theorem shapeAt_empty (h : ¬ maxDepth < path.length) : shapeAt s path (.arr []) = .emptyArray := by
  rw [shapeAt, infer_empty h]

theorem shapeAt_pairs (h : ¬ maxDepth < path.length) {xs : List Json} (hne : xs ≠ [])
    (hp : xs.all isIdValuePair = true) :
    shapeAt s path (.arr xs) =
      { type := pairsType (Name.idValueName s.affixes) (pairShapeAt s path xs).type,
        isArray := true } := by
  have he : xs.isEmpty = false := by simpa using hne
  have h1 := (inferPairs_split hne hp (fun _ _ q _ => splits s q.2) path {}).1
  rw [shapeAt, infer_pairs h he hp, pairs, h1]

theorem shapeAt_items (h : ¬ maxDepth < path.length) {xs : List Json} (hne : xs ≠ [])
    (hp : xs.all isIdValuePair = false) :
    shapeAt s path (.arr xs) = arrayShape (itemShapesAt s path 0 xs) := by
  have he : xs.isEmpty = false := by simpa using hne
  rw [shapeAt, infer_items h he hp, (inferItems_split (fun x _ => splits s x) path 0 {}).1]

theorem shapeAt_record (h : ¬ maxDepth < path.length) (fs : Record) :
    shapeAt s path (.obj fs) =
      { type := .name (Name.recordName s.affixes path), fields := fieldShapesAt s path fs } := by
  rw [shapeAt, infer_record h, (inferFields_split (fun q _ => splits s q.2) path {}).1]

theorem findings_deep (h : maxDepth < path.length) (v : Json) : findings s path v = [] := by
  cases v <;> exact if_pos h

theorem findings_leaf {v : Json} (hv : v.isLeaf = true) : findings s path v = [] := by
  cases v with
  | arr | obj => exact Bool.noConfusion hv
  | null | bool | int | float | str => exact ite_self []

theorem findings_empty : findings s path (.arr []) = [] := ite_self []

theorem findings_pairs (h : ¬ maxDepth < path.length) {xs : List Json} (hne : xs ≠ [])
    (hp : xs.all isIdValuePair = true) :
    findings s path (.arr xs) =
      pairFindings s (pairPath path 0) xs ++ [.generic (Name.idValueName s.affixes)] := by
  have he : xs.isEmpty = false := by simpa using hne
  rw [findings, if_neg h]
  simp only [he, hp, if_true, Bool.false_eq_true, if_false]

theorem findings_items (h : ¬ maxDepth < path.length) {xs : List Json}
    (hp : xs.all isIdValuePair = false) :
    findings s path (.arr xs) = itemFindings s path 0 xs := by
  have he : xs.isEmpty = false := by
    cases xs with
    | nil => simp at hp
    | cons x xs => rfl
  rw [findings, if_neg h]
  simp only [he, hp, Bool.false_eq_true, if_false]

theorem findings_record (h : ¬ maxDepth < path.length) (fs : Record) :
    findings s path (.obj fs) =
      (fs.flatMap fun p => findings s (path ++ [p.1]) p.2) ++
        [.record (declarationAt s path fs)] := by
  rw [← fieldFindings_eq_flatMap]
  exact if_neg h

end

/-- induction along the walk, with the cases that it tells apart -/
@[elab_as_elim]
theorem induction {motive : Path → Json → Prop}
    (deep : ∀ path v, maxDepth < path.length → motive path v)
    (leaf : ∀ path v, ¬ maxDepth < path.length → v.isLeaf = true → motive path v)
    (empty : ∀ path, ¬ maxDepth < path.length → motive path (.arr []))
    (pairs : ∀ path xs, ¬ maxDepth < path.length → xs ≠ [] → xs.all isIdValuePair = true →
      (∀ fs v, .obj fs ∈ xs → PairFields fs v → ∀ q, motive q v) → motive path (.arr xs))
    (items : ∀ path xs, ¬ maxDepth < path.length → xs ≠ [] → xs.all isIdValuePair = false →
      (∀ x ∈ xs, ∀ q, motive q x) → motive path (.arr xs))
    (record : ∀ path fs, ¬ maxDepth < path.length → (∀ p ∈ fs, ∀ q, motive q p.2) →
      motive path (.obj fs)) (path : Path) (v : Json) : motive path v := by
  induction v using Json.induction generalizing path with
  | null | bool | int | float | str =>
    by_cases hd : maxDepth < path.length
    · exact deep path _ hd
    · exact leaf path _ hd rfl
  | arr xs ih ihp =>
    by_cases hd : maxDepth < path.length
    · exact deep path _ hd
    by_cases hne : xs = []
    · exact hne ▸ empty path hd
    cases hp : xs.all isIdValuePair with
    | true => exact pairs path xs hd hne hp fun fs v hm hf => ihp fs hm ("value", v) hf.mem
    | false => exact items path xs hd hne hp ih
  | obj fs ih =>
    by_cases hd : maxDepth < path.length
    · exact deep path _ hd
    · exact record path fs hd ih

end Infer

end SampleTypes
