import Mathlib.Data.List.Permutation
import SampleTypes.Shape.Kind

/-!
# The structure of values

Induction on values, and the parts of a value that types are read off.

* `Json.induction`      induction on values; an array brings the fields of the records among its
                        items too, since of a pair `{id, value}` the program looks at the value;
* `skeleton v`          `v` with its texts, numbers and truth values left blank;
* `keysDistinct v`      no object of `v` names a field twice;
* `PairFields fs v`     `fs` are the fields of a pair of a string id and the value `v`.
-/

namespace SampleTypes.Json

/-! ## induction -/

theorem sizeOf_lt_of_mem_items {x : Json} {xs : List Json} (h : x ∈ xs) :
    sizeOf x < sizeOf (Json.arr xs) := by
  have := List.sizeOf_lt_of_mem h
  rw [Json.arr.sizeOf_spec]
  omega

theorem sizeOf_lt_of_mem_fields {p : String × Json} {fs : List (String × Json)} (h : p ∈ fs) :
    sizeOf p.2 < sizeOf (Json.obj fs) := by
  have h1 := List.sizeOf_lt_of_mem h
  have h2 : sizeOf p = 1 + sizeOf p.1 + sizeOf p.2 := rfl
  rw [Json.obj.sizeOf_spec]
  omega

@[elab_as_elim]
theorem induction {motive : Json → Prop} (null : motive .null) (bool : ∀ b, motive (.bool b))
    (int : ∀ n, motive (.int n)) (float : ∀ x, motive (.float x)) (str : ∀ s, motive (.str s))
    (arr : ∀ xs, (∀ x ∈ xs, motive x) → (∀ gs, .obj gs ∈ xs → ∀ p ∈ gs, motive p.2) →
      motive (.arr xs))
    (obj : ∀ fs, (∀ p ∈ fs, motive p.2) → motive (.obj fs)) (v : Json) : motive v := by
  induction hn : sizeOf v using Nat.strongRecOn generalizing v with
  | _ n ih =>
    subst hn
    cases v with
    | null => exact null
    | bool b => exact bool b
    | int n => exact int n
    | float x => exact float x
    | str s => exact str s
    | arr xs =>
      refine arr xs (fun x hx => ih _ (sizeOf_lt_of_mem_items hx) x rfl) fun gs hg p hp => ?_
      exact ih _ (Nat.lt_trans (sizeOf_lt_of_mem_fields hp) (sizeOf_lt_of_mem_items hg)) p.2 rfl
    | obj fs => exact obj fs fun p hp => ih _ (sizeOf_lt_of_mem_fields hp) p.2 rfl

/-- neither an array nor a record -/
def isLeaf : Json → Bool
  | .arr _ => false
  | .obj _ => false
  | _ => true

/-! ## skeletons -/

mutual

/-- the value with its texts, numbers and truth values left blank -/
def skeleton : Json → Json
  | .null => .null
  | .bool _ => .bool false
  | .int _ => .int 0
  | .float _ => .int 0
  | .str _ => .str ""
  | .arr xs => .arr (itemSkeletons xs)
  | .obj fs => .obj (fieldSkeletons fs)

def itemSkeletons : List Json → List Json
  | [] => []
  | x :: xs => skeleton x :: itemSkeletons xs

def fieldSkeletons : List (String × Json) → List (String × Json)
  | [] => []
  | (k, v) :: fs => (k, skeleton v) :: fieldSkeletons fs

end

theorem itemSkeletons_eq_map (xs : List Json) : itemSkeletons xs = xs.map skeleton := by
  induction xs with
  | nil => simp [itemSkeletons]
  | cons x xs ih => simp [itemSkeletons, ih]

theorem fieldSkeletons_eq_map (fs : List (String × Json)) :
    fieldSkeletons fs = fs.map fun p => (p.1, skeleton p.2) := by
  induction fs with
  | nil => simp [fieldSkeletons]
  | cons p fs ih => obtain ⟨k, v⟩ := p; simp [fieldSkeletons, ih]

theorem skeleton_arr (xs : List Json) : (Json.arr xs).skeleton = .arr (xs.map skeleton) := by
  rw [skeleton, itemSkeletons_eq_map]

theorem skeleton_obj (fs : Record) :
    (Json.obj fs).skeleton = .obj (fs.map fun p => (p.1, skeleton p.2)) := by
  rw [skeleton, fieldSkeletons_eq_map]

theorem isLeaf_skeleton (v : Json) : v.skeleton.isLeaf = v.isLeaf := by
  cases v <;> rfl

theorem isNull_skeleton (v : Json) : v.skeleton.isNull = v.isNull := by
  cases v <;> rfl

theorem isString_skeleton (v : Json) : v.skeleton.isString = v.isString := by
  cases v <;> rfl

theorem isArray_skeleton (v : Json) : v.skeleton.isArray = v.isArray := by
  cases v <;> rfl

theorem isRecord_skeleton (v : Json) : v.skeleton.isRecord = v.isRecord := by
  cases v <;> rfl

theorem items?_skeleton (v : Json) : v.skeleton.items? = v.items?.map (·.map skeleton) := by
  cases v with
  | arr xs => rw [skeleton_arr]; rfl
  | null | bool | int | float | str | obj => rfl

/-- a record with its leaves left blank -/
def blank (r : Record) : Record := r.map fun p => (p.1, skeleton p.2)

theorem record?_skeleton (v : Json) : v.skeleton.record? = v.record?.map blank := by
  cases v with
  | obj fs => rw [skeleton_obj]; rfl
  | null | bool | int | float | str | arr => rfl

theorem lookup_blank (k : String) (r : Record) :
    (blank r).lookup k = (r.lookup k).map skeleton := by
  induction r with
  | nil => rfl
  | cons p r ih =>
    obtain ⟨j, v⟩ := p
    show List.lookup k ((j, skeleton v) :: blank r) = _
    rw [List.lookup_cons, List.lookup_cons, ih]
    cases k == j <;> rfl

theorem names_blank (r : Record) : Fields.names (blank r) = Fields.names r := by
  simp [Fields.names, blank]

/-! ## distinct keys -/

mutual

/-- no object of the value names a field twice -/
def keysDistinct : Json → Bool
  | .arr xs => itemKeysDistinct xs
  | .obj fs => decide (Fields.names fs).Nodup && fieldKeysDistinct fs
  | _ => true

def itemKeysDistinct : List Json → Bool
  | [] => true
  | x :: xs => keysDistinct x && itemKeysDistinct xs

def fieldKeysDistinct : List (String × Json) → Bool
  | [] => true
  | (_, v) :: fs => keysDistinct v && fieldKeysDistinct fs

end

theorem keysDistinct_arr_iff {xs : List Json} :
    (Json.arr xs).keysDistinct = true ↔ ∀ x ∈ xs, x.keysDistinct = true := by
  rw [keysDistinct]
  induction xs with
  | nil => simp [itemKeysDistinct]
  | cons x xs ih => rw [itemKeysDistinct, Bool.and_eq_true, ih, List.forall_mem_cons]

theorem keysDistinct_obj_iff {fs : Record} : (Json.obj fs).keysDistinct = true ↔
    (Fields.names fs).Nodup ∧ ∀ p ∈ fs, p.2.keysDistinct = true := by
  have hfields : fieldKeysDistinct fs = true ↔ ∀ p ∈ fs, p.2.keysDistinct = true := by
    induction fs with
    | nil => simp [fieldKeysDistinct]
    | cons p fs ih =>
      obtain ⟨k, v⟩ := p
      rw [fieldKeysDistinct, Bool.and_eq_true, ih, List.forall_mem_cons]
  rw [keysDistinct, Bool.and_eq_true, decide_eq_true_eq, hfields]

theorem keysDistinct_of_mem_fields {p : String × Json} {fs : Record}
    (h : (Json.obj fs).keysDistinct) (hp : p ∈ fs) : p.2.keysDistinct :=
  (keysDistinct_obj_iff.mp h).2 p hp

theorem keysDistinct_of_mem_items {x : Json} {xs : List Json} (h : (Json.arr xs).keysDistinct)
    (hx : x ∈ xs) : x.keysDistinct := keysDistinct_arr_iff.mp h x hx

theorem nodup_names_of_keysDistinct {fs : Record} (h : (Json.obj fs).keysDistinct) :
    (Fields.names fs).Nodup := (keysDistinct_obj_iff.mp h).1

end SampleTypes.Json

namespace SampleTypes

/-! ## pairs -/

/-- the fields of a pair of a string id and a value -/
def PairFields (fs : Record) (v : Json) : Prop := ∃ i, fs.Perm [("id", .str i), ("value", v)]

theorem PairFields.mem {fs : Record} {v : Json} (h : PairFields fs v) : ("value", v) ∈ fs := by
  obtain ⟨i, h⟩ := h
  exact h.mem_iff.mpr (by simp)

/-- what goes on to the field `value` of a pair gives what it gives there -/
theorem PairFields.eq_of_cons {α : Type} {f : Record → α} {g : Json → α}
    (hf : ∀ k v fs, f ((k, v) :: fs) = if k = "value" then g v else f fs) {fs : Record} {v : Json}
    (h : PairFields fs v) : f fs = g v := by
  obtain ⟨i, h⟩ := h
  have hid : "id" ≠ "value" := by decide
  rcases List.perm_pair.mp h with rfl | rfl
  · rw [hf, if_neg hid, hf, if_pos rfl]
  · rw [hf, if_pos rfl]

theorem pairFields_of_lookup {fs : Record} {i : String} {v : Json} (h2 : fs.length = 2)
    (hi : fs.lookup "id" = some (.str i)) (hv : fs.lookup "value" = some v) : PairFields fs v := by
  refine ⟨i, ?_⟩
  match fs, h2 with
  | [(k, a), (j, b)], _ =>
    simp only [List.lookup_cons, List.lookup_nil] at hi hv
    by_cases hk : k = "id"
    · subst hk
      obtain rfl : a = .str i := by simpa using hi
      by_cases hj : j = "value"
      · subst hj
        obtain rfl : b = v := by simpa using hv
        exact List.Perm.refl _
      · have hb : ("value" == j) = false := by simpa using fun e => hj e.symm
        simp [hb] at hv
    · have hb : ("id" == k) = false := by simpa using fun e => hk e.symm
      by_cases hj : j = "id"
      · subst hj
        obtain rfl : b = .str i := by simpa [hb] using hi
        by_cases hk' : k = "value"
        · subst hk'
          obtain rfl : a = v := by simpa using hv
          exact List.Perm.swap _ _ _
        · have hb' : ("value" == k) = false := by simpa using fun e => hk' e.symm
          simp [hb'] at hv
      · have hb' : ("id" == j) = false := by simpa using fun e => hj e.symm
        simp [hb, hb'] at hi

theorem pairValue?_eq_some_iff {x v : Json} :
    pairValue? x = some v ↔ ∃ fs, x = .obj fs ∧ PairFields fs v := by
  constructor
  · intro h
    cases x with
    | obj fs =>
      rw [pairValue?] at h
      split at h
      · rename_i hc
        rw [Bool.and_eq_true] at hc
        have hid : ∃ i, fs.lookup "id" = some (.str i) := by
          cases hl : fs.lookup "id" with
          | none => simp [hl] at hc
          | some w => cases w <;> simp_all [Json.isString]
        obtain ⟨i, hi⟩ := hid
        exact ⟨fs, rfl, pairFields_of_lookup (of_decide_eq_true hc.1) hi h⟩
      · simp at h
    | _ => simp [pairValue?] at h
  · rintro ⟨fs, rfl, i, h⟩
    rcases List.perm_pair.mp h with rfl | rfl <;> rfl

theorem PairFields.value_unique {fs : Record} {v w : Json} (h : PairFields fs v)
    (h' : PairFields fs w) : v = w := by
  have hv : pairValue? (.obj fs) = some v := pairValue?_eq_some_iff.mpr ⟨fs, rfl, h⟩
  have hw : pairValue? (.obj fs) = some w := pairValue?_eq_some_iff.mpr ⟨fs, rfl, h'⟩
  exact Option.some.inj (hv.symm.trans hw)

theorem isIdValuePair_iff {x : Json} :
    isIdValuePair x = true ↔ ∃ fs v, x = .obj fs ∧ PairFields fs v := by
  rw [isIdValuePair, Option.isSome_iff_exists]
  constructor
  · rintro ⟨v, hv⟩
    obtain ⟨fs, hx, h⟩ := pairValue?_eq_some_iff.mp hv
    exact ⟨fs, v, hx, h⟩
  · rintro ⟨fs, v, hx, h⟩
    exact ⟨v, pairValue?_eq_some_iff.mpr ⟨fs, hx, h⟩⟩

end SampleTypes
