import SampleTypes.Proofs.Inference.Findings
import SampleTypes.Proofs.Strict.Merge

/-!
# Inference, if nothing is made up

Inference goes by the kind of a value.  It takes the first one of a list of pairs and the value in
it, and compares the shapes of items with the first one.  Here it fails where there is no such
thing, and where a value is of no kind.  It never does, whatever the value and wherever it stands.

* `infer`        the walk over a value, kind by kind;
* `infer_eq`     it does not fail, and has the same result as inference.
-/

namespace SampleTypes.Strict

open Infer (pairPath)

def elements (ss : List Shape) : Except Fault Elements :=
  match Elements.of? ss with
  | some e => .ok e
  | none => .error .noItem

mutual

def infer (s : Settings) (path : Path) (p : Progress) (v : Json) :
    Except Fault (Shape × Progress) :=
  if maxDepth < path.length then .ok (.unknown, { p with log := p.log ++ [Infer.tooDeep path] })
  else match v, Kind.of v with
    | _, .null => .ok (.unknown, p)
    | _, .primitive q => .ok ({ type := .name q.name }, p)
    | _, .emptyArray => .ok (.emptyArray, p)
    | .arr xs, .pairs _ => do
      let (value, p) ← inferFirst s (pairPath path 0) p xs
      return Infer.pairs s value p
    | .arr xs, .array _ => do
      let (shapes, p) ← inferItems s path 0 p xs
      return ((← elements shapes).shape, p)
    | .obj fs, .record _ => do
      let (fields, p) ← inferFields s path p fs
      let name := Name.recordName s.affixes path
      return ({ type := .name name, fields := fields }, Infer.register p name fields path)
    | _, _ => .error .unknownKind

def inferItems (s : Settings) (path : Path) (index : Nat) (p : Progress) :
    List Json → Except Fault (List Shape × Progress)
  | [] => .ok ([], p)
  | x :: xs => do
    let (shape, p) ← infer s (path ++ [Name.marker index]) p x
    let (shapes, p) ← inferItems s path (index + 1) p xs
    return (shape :: shapes, p)

def inferFields (s : Settings) (path : Path) (p : Progress) :
    List (String × Json) → Except Fault (List (String × Shape) × Progress)
  | [] => .ok ([], p)
  | (k, v) :: fs => do
    let (shape, p) ← infer s (path ++ [k]) p v
    let (shapes, p) ← inferFields s path p fs
    return ((k, Infer.fieldShape s (path ++ [k]) v shape) :: shapes, p)

def inferFirst (s : Settings) (path : Path) (p : Progress) :
    List Json → Except Fault (Shape × Progress)
  | .obj fs :: _ => inferValue s path p fs
  | _ => .error .noPair

def inferValue (s : Settings) (path : Path) (p : Progress) :
    List (String × Json) → Except Fault (Shape × Progress)
  | [] => .error .noPair
  | (k, v) :: fs => if k = "value" then infer s path p v else inferValue s path p fs

end

/-- the walk over a value does not fail, at whatever path -/
def Runs (s : Settings) (v : Json) : Prop :=
  ∀ path p, infer s path p v = .ok (Infer.infer s path p v)

section
variable {s : Settings} {path : Path} {p : Progress}

theorem inferItems_eq {xs : List Json} (h : ∀ x ∈ xs, Runs s x) (index : Nat) :
    inferItems s path index p xs = .ok (Infer.inferItems s path index p xs) := by
  induction xs generalizing index p with
  | nil => rw [inferItems, Infer.inferItems]
  | cons x xs ih =>
    have hx : Runs s x := h x List.mem_cons_self
    have hxs : ∀ y ∈ xs, Runs s y := fun y hy => h y (List.mem_cons_of_mem _ hy)
    rw [inferItems, hx, Infer.inferItems]
    show inferItems s path (index + 1) _ xs >>= _ = _
    rw [ih hxs]
    rfl

theorem inferFields_eq {fs : Record} (h : ∀ q ∈ fs, Runs s q.2) :
    inferFields s path p fs = .ok (Infer.inferFields s path p fs) := by
  induction fs generalizing p with
  | nil => rw [inferFields, Infer.inferFields]
  | cons q fs ih =>
    obtain ⟨k, v⟩ := q
    have hv : Runs s v := h (k, v) List.mem_cons_self
    have hfs : ∀ q ∈ fs, Runs s q.2 := fun q hq => h q (List.mem_cons_of_mem _ hq)
    rw [inferFields, hv, Infer.inferFields]
    show inferFields s path _ fs >>= _ = _
    rw [ih hfs]
    rfl

/-- a list of pairs begins with one, which has a value -/
theorem inferFirst_eq {xs : List Json} (hne : xs ≠ []) (hp : xs.all isIdValuePair = true)
    (h : ∀ fs v, .obj fs ∈ xs → PairFields fs v → Runs s v) :
    inferFirst s path p xs = .ok (Infer.inferPairs s path p xs) := by
  obtain ⟨fs, v, rest, rfl, hf⟩ := Infer.exists_firstPair hne hp
  have hv : Runs s v := h fs v List.mem_cons_self hf
  have hstrict : inferValue s path p fs = infer s path p v :=
    hf.eq_of_cons fun k v fs => by rw [inferValue]
  have hvalue : Infer.inferValue s path p fs = Infer.infer s path p v :=
    hf.eq_of_cons fun k v fs => by rw [Infer.inferValue]
  rw [inferFirst, hstrict, hv, Infer.inferPairs, hvalue]

theorem inferItems_ne_nil {xs : List Json} (h : xs ≠ []) (index : Nat) :
    (Infer.inferItems s path index p xs).1 ≠ [] := by
  obtain ⟨x, xs, rfl⟩ := List.exists_cons_of_ne_nil h
  rw [Infer.inferItems]
  exact List.cons_ne_nil _ _

theorem elements_eq {ss : List Shape} (h : ss ≠ []) :
    ∃ e, elements ss = .ok e ∧ e.shape = Infer.arrayShape ss := by
  obtain ⟨e, he⟩ := Option.isSome_iff_exists.mp (Elements.isSome_of? h)
  rw [elements, Infer.arrayShape, he]
  exact ⟨e, rfl, rfl⟩

theorem kind_pairs {xs : List Json} (hne : xs.isEmpty = false) (hp : xs.all isIdValuePair = true) :
    Kind.of (.arr xs) = .pairs xs := by
  show Kind.ofItems xs = _
  rw [Kind.ofItems, if_neg (by simp [hne]), if_pos hp]

theorem kind_items {xs : List Json} (hne : xs.isEmpty = false)
    (hp : xs.all isIdValuePair = false) : Kind.of (.arr xs) = .array xs := by
  show Kind.ofItems xs = _
  rw [Kind.ofItems, if_neg (by simp [hne]), if_neg (by simp [hp])]

/-! ## the walk, case by case -/

theorem infer_deep (hd : maxDepth < path.length) (v : Json) :
    infer s path p v = .ok (Infer.infer s path p v) := by
  rw [infer.eq_def, if_pos hd, Infer.infer_deep hd]

theorem infer_leaf (hd : ¬ maxDepth < path.length) {v : Json} (hv : v.isLeaf = true) :
    infer s path p v = .ok (Infer.infer s path p v) := by
  cases v with
  | arr | obj => exact Bool.noConfusion hv
  | null | bool | int | float | str =>
    rw [infer.eq_def, if_neg hd, Infer.infer, if_neg hd]
    rfl

theorem infer_pairs (hd : ¬ maxDepth < path.length) {xs : List Json} (hne : xs ≠ [])
    (hp : xs.all isIdValuePair = true) (h : ∀ fs v, .obj fs ∈ xs → PairFields fs v → Runs s v) :
    infer s path p (.arr xs) = .ok (Infer.infer s path p (.arr xs)) := by
  have he : xs.isEmpty = false := by simpa using hne
  rw [infer.eq_def, if_neg hd, kind_pairs he hp, Infer.infer_pairs hd he hp]
  show inferFirst s (pairPath path 0) p xs >>= _ = _
  rw [inferFirst_eq hne hp h]
  rfl

theorem infer_items (hd : ¬ maxDepth < path.length) {xs : List Json} (hne : xs ≠ [])
    (hp : xs.all isIdValuePair = false) (h : ∀ x ∈ xs, Runs s x) :
    infer s path p (.arr xs) = .ok (Infer.infer s path p (.arr xs)) := by
  have he : xs.isEmpty = false := by simpa using hne
  rw [infer.eq_def, if_neg hd, kind_items he hp, Infer.infer_items hd he hp]
  show inferItems s path 0 p xs >>= _ = _
  rw [inferItems_eq h]
  -- there is a first shape, since there is a first item
  have hshapes : (Infer.inferItems s path 0 p xs).1 ≠ [] := inferItems_ne_nil hne 0
  obtain ⟨e, hstrict, hshape⟩ := elements_eq hshapes
  show elements (Infer.inferItems s path 0 p xs).1 >>= _ = _
  rw [hstrict, ← hshape]
  rfl

theorem infer_record (hd : ¬ maxDepth < path.length) {fs : Record} (h : ∀ q ∈ fs, Runs s q.2) :
    infer s path p (.obj fs) = .ok (Infer.infer s path p (.obj fs)) := by
  rw [infer.eq_def, if_neg hd, Infer.infer_record hd]
  show inferFields s path p fs >>= _ = _
  rw [inferFields_eq h]
  rfl

end

/-- the walk does not fail, whatever the value -/
theorem infer_eq (s : Settings) (path : Path) (p : Progress) (v : Json) :
    infer s path p v = .ok (Infer.infer s path p v) := by
  induction path, v using Infer.induction generalizing p with
  | deep path v hd => exact infer_deep hd v
  | leaf path v hd hv => exact infer_leaf hd hv
  | empty path hd =>
    rw [infer.eq_def, if_neg hd, Infer.infer_empty hd]
    rfl
  | pairs path xs hd hne hp ih =>
    exact infer_pairs hd hne hp fun fs v hm hf q p => ih fs v hm hf q p
  | items path xs hd hne hp ih => exact infer_items hd hne hp fun x hx q p => ih x hx q p
  | record path fs hd ih => exact infer_record hd fun f hf q p => ih f hf q p

end SampleTypes.Strict
