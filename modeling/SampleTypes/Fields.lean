/-!
# Fields in order

A record's fields are a list of named values in the order of their first appearance.  Where
nothing is said about the order of names, they can be of any type with decidable equality.

* `fields.lookup k`   the value of a field (of the core library);
* `names fs`          the names in order;
* `put k v fs`        the fields with `k` holding `v`: in its old place, or at the end;
* `ofPairs ps`        fields from pairs: a repeated name keeps its first place and last value.
-/

namespace SampleTypes.Fields

variable {κ α : Type} [DecidableEq κ]

/-- the names in order -/
def names (fs : List (κ × α)) : List κ := fs.map (·.1)

/-- whether there is a field of that name -/
def has (k : κ) (fs : List (κ × α)) : Bool := fs.any (·.1 == k)

/-- the fields with `k` holding `v` -/
def put (k : κ) (v : α) : List (κ × α) → List (κ × α)
  | [] => [(k, v)]
  | (k', v') :: fs => if k' = k then (k, v) :: fs else (k', v') :: put k v fs

/-- fields from pairs in order -/
def ofPairs (ps : List (κ × α)) : List (κ × α) :=
  ps.foldl (fun fs p => put p.1 p.2 fs) []

/-- fields sorted by name, by code point -/
def sorted (fs : List (String × α)) : List (String × α) :=
  fs.mergeSort fun a b => decide (a.1 ≤ b.1)

omit [DecidableEq κ] in

omit [DecidableEq κ] in
theorem names_cons (k : κ) (v : α) (fs : List (κ × α)) :
    names ((k, v) :: fs) = k :: names fs := rfl

theorem put_cons (k : κ) (v : α) (k' : κ) (v' : α) (fs : List (κ × α)) :
    put k v ((k', v') :: fs) = if k' = k then (k, v) :: fs else (k', v') :: put k v fs := rfl

theorem lookup_put_self (k : κ) (v : α) (fs : List (κ × α)) :
    (put k v fs).lookup k = some v := by
  induction fs with
  | nil => simp [put]
  | cons p fs ih =>
    obtain ⟨k', v'⟩ := p
    by_cases h : k' = k
    · simp [put, h]
    · have h' : (k == k') = false := by simpa using fun e => h e.symm
      simp [put, h, List.lookup_cons, h', ih]

theorem lookup_put_of_ne {k j : κ} (h : j ≠ k) (v : α) (fs : List (κ × α)) :
    (put k v fs).lookup j = fs.lookup j := by
  induction fs with
  | nil =>
    have h' : (j == k) = false := by simpa using h
    simp [put, List.lookup_cons, h']
  | cons p fs ih =>
    obtain ⟨k', v'⟩ := p
    have h' : (j == k) = false := by simpa using h
    by_cases hk : k' = k
    · subst hk
      simp [put, List.lookup_cons, h']
    · simp [put, hk, List.lookup_cons, ih]

/-- a new name goes to the end, a known one stays in place -/
theorem names_put (k : κ) (v : α) (fs : List (κ × α)) :
    names (put k v fs) = if k ∈ names fs then names fs else names fs ++ [k] := by
  induction fs with
  | nil => simp [put, names]
  | cons p fs ih =>
    obtain ⟨k', v'⟩ := p
    by_cases h : k' = k
    · simp [put, h, names]
    · have hk : k ≠ k' := fun e => h e.symm
      simp only [put, h, if_false, names_cons, ih, List.mem_cons, hk, false_or]
      split <;> simp

end SampleTypes.Fields
