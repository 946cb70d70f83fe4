import SampleTypes.Proofs.Inference.Findings

/-!
# Where the values inside a value stand

* `occurrences p v`     the values inside `v`, which stands at the path `p`, with their paths: the
                        items of arrays and the fields of records, at any depth, and of an array
                        of pairs the values of all pairs, but not the pairs themselves;
* `Finding.From`        a declaration is that of a record among some occurrences;
* `from_occurrences`    what is registered for a value comes from its occurrences.
-/

namespace SampleTypes.Infer

mutual

/-- the values inside a value at a path, with their own paths -/
def occurrences (path : Path) : Json → List (Path × Json)
  | .arr xs =>
    (path, .arr xs) ::
      (if xs.all isIdValuePair then pairOccurrences path 0 xs else itemOccurrences path 0 xs)
  | .obj fs => (path, .obj fs) :: fieldOccurrences path fs
  | v => [(path, v)]

def itemOccurrences (path : Path) (index : Nat) : List Json → List (Path × Json)
  | [] => []
  | x :: xs => occurrences (path ++ [Name.marker index]) x ++ itemOccurrences path (index + 1) xs

def fieldOccurrences (path : Path) : List (String × Json) → List (Path × Json)
  | [] => []
  | (k, v) :: fs => occurrences (path ++ [k]) v ++ fieldOccurrences path fs

/-- the values inside the values of pairs -/
def pairOccurrences (path : Path) (index : Nat) : List Json → List (Path × Json)
  | .obj fs :: xs =>
    valueOccurrences (pairPath path index) fs ++ pairOccurrences path (index + 1) xs
  | _ => []

def valueOccurrences (path : Path) : List (String × Json) → List (Path × Json)
  | [] => []
  | (k, v) :: fs => if k = "value" then occurrences path v else valueOccurrences path fs

end

theorem mem_occurrences_self (path : Path) (v : Json) : (path, v) ∈ occurrences path v := by
  cases v <;> rw [occurrences] <;> simp

theorem valueOccurrences_eq {fs : Record} {v : Json} (h : PairFields fs v) (path : Path) :
    valueOccurrences path fs = occurrences path v :=
  h.eq_of_cons fun k v fs => by rw [valueOccurrences]

/-! ## the occurrences inside a part -/

theorem occurrences_field {path : Path} {fs : Record} {p : String × Json} (h : p ∈ fs) :
    occurrences (path ++ [p.1]) p.2 ⊆ occurrences path (.obj fs) := by
  rw [occurrences]
  refine List.subset_cons_of_subset _ ?_
  induction fs with
  | nil => simp at h
  | cons q fs ih =>
    obtain ⟨k, v⟩ := q
    rw [fieldOccurrences]
    rcases List.mem_cons.mp h with rfl | h
    · exact List.subset_append_left _ _
    · exact List.subset_append_of_subset_right _ (ih h)

theorem itemOccurrences_getElem (path : Path) (j : Nat) {xs : List Json} {i : Nat} {x : Json}
    (h : xs[i]? = some x) :
    occurrences (path ++ [Name.marker (j + i)]) x ⊆ itemOccurrences path j xs := by
  induction xs generalizing i j with
  | nil => simp at h
  | cons y xs ih =>
    rw [itemOccurrences]
    cases i with
    | zero =>
      obtain rfl : y = x := by simpa using h
      exact List.subset_append_left _ _
    | succ i =>
      rw [List.getElem?_cons_succ] at h
      have := ih (j + 1) h
      rw [Nat.add_right_comm, Nat.add_assoc] at this
      exact List.subset_append_of_subset_right _ this

theorem occurrences_item {path : Path} {xs : List Json} (hp : xs.all isIdValuePair = false)
    {i : Nat} {x : Json} (h : xs[i]? = some x) :
    occurrences (path ++ [Name.marker i]) x ⊆ occurrences path (.arr xs) := by
  rw [occurrences, hp, if_neg (by simp)]
  have := itemOccurrences_getElem path 0 h
  rw [Nat.zero_add] at this
  exact List.subset_cons_of_subset _ this

theorem pairOccurrences_getElem (path : Path) (j : Nat) {xs : List Json}
    (hp : xs.all isIdValuePair = true) {i : Nat} {x v : Json} (h : xs[i]? = some x)
    (hx : pairValue? x = some v) :
    occurrences (pairPath path (j + i)) v ⊆ pairOccurrences path j xs := by
  induction xs generalizing i j with
  | nil => simp at h
  | cons y xs ih =>
    rw [List.all_cons, Bool.and_eq_true] at hp
    obtain ⟨fs, w, rfl, hf⟩ := isIdValuePair_iff.mp hp.1
    rw [pairOccurrences, valueOccurrences_eq hf]
    cases i with
    | zero =>
      obtain rfl : .obj fs = x := by simpa using h
      rw [pairValue?_eq_some_iff.mpr ⟨fs, rfl, hf⟩] at hx
      obtain rfl : w = v := Option.some.inj hx
      exact List.subset_append_left _ _
    | succ i =>
      rw [List.getElem?_cons_succ] at h
      have := ih (j + 1) hp.2 h
      rw [Nat.add_right_comm, Nat.add_assoc] at this
      exact List.subset_append_of_subset_right _ this

theorem occurrences_pair {path : Path} {xs : List Json} (hp : xs.all isIdValuePair = true)
    {i : Nat} {x v : Json} (h : xs[i]? = some x) (hx : pairValue? x = some v) :
    occurrences (pairPath path i) v ⊆ occurrences path (.arr xs) := by
  rw [occurrences, if_pos hp]
  have := pairOccurrences_getElem path 0 hp h hx
  rw [Nat.zero_add] at this
  exact List.subset_cons_of_subset _ this

/-! ## findings -/

/-- a declaration is that of a record among the occurrences, and the generic type is the one of the
settings -/
def Finding.From (s : Settings) (occ : List (Path × Json)) : Finding → Prop
  | .record d => ∃ path fs, (path, .obj fs) ∈ occ ∧ path.length ≤ maxDepth ∧
      d = declarationAt s path fs
  | .generic n => n = Name.idValueName s.affixes

theorem Finding.From.mono {s : Settings} {occ occ' : List (Path × Json)} {f : Finding}
    (h : f.From s occ) (hsub : occ ⊆ occ') : f.From s occ' := by
  cases f with
  | record d =>
    obtain ⟨path, fs, hm, hd⟩ := h
    exact ⟨path, fs, hsub hm, hd⟩
  | generic n => exact h

theorem from_itemOccurrences {s : Settings} {xs : List Json}
    (h : ∀ x ∈ xs, ∀ path, ∀ f ∈ findings s path x, f.From s (occurrences path x)) (path : Path)
    (i : Nat) : ∀ f ∈ itemFindings s path i xs, f.From s (itemOccurrences path i xs) := by
  induction xs generalizing i with
  | nil => simp [itemFindings]
  | cons x xs ih =>
    rw [itemFindings, itemOccurrences]
    intro f hf
    rcases List.mem_append.mp hf with hf | hf
    · exact (h x (by simp) _ f hf).mono (List.subset_append_left _ _)
    · exact (ih (fun y hy => h y (List.mem_cons_of_mem _ hy)) (i + 1) f hf).mono
        (List.subset_append_right _ _)

/-- what is registered for a value comes from its occurrences -/
theorem from_occurrences (s : Settings) (v : Json) (path : Path) :
    ∀ f ∈ findings s path v, f.From s (occurrences path v) := by
  induction path, v using Infer.induction with
  | deep path v hd => rw [findings_deep hd]; simp
  | leaf path v hd hv => rw [findings_leaf hv]; simp
  | empty path hd => rw [findings_empty]; simp
  | pairs path xs hd hne hp ih =>
    rw [findings_pairs hd hne hp]
    obtain ⟨fs, v, rest, rfl, hf⟩ := exists_firstPair hne hp
    rw [pairFindings_cons hf]
    intro f hm
    rcases List.mem_append.mp hm with hm | hm
    · refine (ih fs v (by simp) hf _ f hm).mono ?_
      exact occurrences_pair hp (i := 0) rfl (pairValue?_eq_some_iff.mpr ⟨fs, rfl, hf⟩)
    · obtain rfl := List.mem_singleton.mp hm
      exact rfl
  | items path xs hd hne hp ih =>
    rw [findings_items hd hp, occurrences, hp, if_neg (by simp)]
    exact fun f hf => (from_itemOccurrences ih path 0 f hf).mono (List.subset_cons_self _ _)
  | record path fs hd ih =>
    rw [findings_record hd]
    intro f hf
    rcases List.mem_append.mp hf with hf | hf
    · obtain ⟨p, hp, hf⟩ := List.mem_flatMap.mp hf
      exact (ih p hp _ f hf).mono (occurrences_field hp)
    · obtain rfl := List.mem_singleton.mp hf
      exact ⟨path, fs, mem_occurrences_self _ _, Nat.not_lt.mp hd, rfl⟩

end SampleTypes.Infer
