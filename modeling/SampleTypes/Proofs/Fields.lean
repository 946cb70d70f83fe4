import Mathlib.Data.List.Induction
import SampleTypes.Fields
import SampleTypes.Proofs.Distinct

/-!
# Fields by name and in order

* `lookup_eq_some_of_mem`   a field that no other one has the name of is found;
* `perm_sorted`             sorting changes the order only;
* `sorted_eq_of_perm`       the order before it does not count if names are distinct;
* `sorted_map`              values can be changed before or after sorting;
* `lookup_map_names`        of fields made from their names each name has its value;
* `mem_of_mem_ofPairs`      fields from pairs are among the pairs;
* `ofPairs_of_nodup`        pairs with distinct names are fields as they stand;
* `map_ofPairs`             values can be changed before or after;
* `names_ofPairs`, `lookup_ofPairs`   in general each name is there once, with its last value.
-/

namespace SampleTypes.Fields

variable {α β : Type}

theorem mem_of_lookup {k : String} {v : α} {fs : List (String × α)} (h : fs.lookup k = some v) :
    (k, v) ∈ fs := by
  obtain ⟨l, r, rfl, _⟩ := List.lookup_eq_some_iff.mp h
  simp

theorem mem_names_of_lookup {k : String} {v : α} {fs : List (String × α)}
    (h : fs.lookup k = some v) : k ∈ names fs := List.mem_map_of_mem (mem_of_lookup h)

theorem lookup_eq_some_of_mem {k : String} {v : α} {fs : List (String × α)}
    (hn : (names fs).Nodup) (h : (k, v) ∈ fs) : fs.lookup k = some v := by
  induction fs with
  | nil => simp at h
  | cons p fs ih =>
    obtain ⟨j, w⟩ := p
    obtain ⟨hj, hn⟩ := List.nodup_cons.mp hn
    rcases List.mem_cons.mp h with e | hm
    · obtain ⟨rfl, rfl⟩ := Prod.mk.inj e
      exact List.lookup_cons_self
    · have hne : k ≠ j := by
        rintro rfl
        have hk : (k, v).1 ∈ names fs := List.mem_map_of_mem hm
        exact hj hk
      have hb : (k == j) = false := beq_eq_false_iff_ne.mpr hne
      rw [List.lookup_cons, hb]
      exact ih hn hm

theorem exists_lookup_of_mem_names {k : String} {fs : List (String × α)} (h : k ∈ names fs) :
    ∃ v, fs.lookup k = some v := by
  cases hl : fs.lookup k with
  | some v => exact ⟨v, rfl⟩
  | none =>
    obtain ⟨p, hp, rfl⟩ := List.mem_map.mp h
    have := List.lookup_eq_none_iff.mp hl p hp
    simp at this

/-- fields with distinct names are those found under their names -/
theorem map_lookup_names [Inhabited α] {fs : List (String × α)} (h : (names fs).Nodup) :
    (names fs).map (fun k => (k, (fs.lookup k).getD default)) = fs := by
  rw [names, List.map_map]
  refine (List.map_congr_left fun p hp => ?_).trans (List.map_id fs)
  show (p.1, (fs.lookup p.1).getD default) = p
  rw [lookup_eq_some_of_mem h hp]
  rfl

theorem perm_sorted (fs : List (String × α)) : (sorted fs).Perm fs := List.mergeSort_perm _ _

theorem sorted_map (f : α → β) (fs : List (String × α)) :
    sorted (fs.map fun p => (p.1, f p.2)) = (sorted fs).map fun p => (p.1, f p.2) := by
  rw [sorted, sorted, List.map_mergeSort (s := fun a b => decide (a.1 ≤ b.1))]
  exact fun _ _ _ _ => rfl

theorem pairwise_sorted (fs : List (String × α)) : (sorted fs).Pairwise fun a b => a.1 ≤ b.1 := by
  have hp : (sorted fs).Pairwise fun a b => decide (a.1 ≤ b.1) = true := by
    refine List.pairwise_mergeSort (fun a b c hab hbc => ?_) (fun a b => ?_) fs
    · exact decide_eq_true (String.le_trans (of_decide_eq_true hab) (of_decide_eq_true hbc))
    · rw [Bool.or_eq_true, decide_eq_true_eq, decide_eq_true_eq]
      exact String.le_total a.1 b.1
  exact hp.imp fun hab => of_decide_eq_true hab

/-- fields with distinct names are sorted alike, whatever their order -/
theorem sorted_eq_of_perm {fs gs : List (String × α)} (hn : (names fs).Nodup) (h : fs.Perm gs) :
    sorted fs = sorted gs := by
  have hperm : (sorted fs).Perm (sorted gs) :=
    ((perm_sorted fs).trans h).trans (perm_sorted gs).symm
  refine List.Perm.eq_of_pairwise (fun a b ha hb hab hba => ?_) (pairwise_sorted fs)
    (pairwise_sorted gs) hperm
  have ha : (a.1, a.2) ∈ fs := (perm_sorted fs).mem_iff.mp ha
  have hb : (b.1, b.2) ∈ fs := h.mem_iff.mpr ((perm_sorted gs).mem_iff.mp hb)
  have hkey : a.1 = b.1 := String.le_antisymm hab hba
  have ha := lookup_eq_some_of_mem hn ha
  rw [hkey, lookup_eq_some_of_mem hn hb] at ha
  exact Prod.ext hkey (Option.some.inj ha).symm

theorem lookup_map_names (f : String → α) {k : String} {ks : List String} (hk : k ∈ ks) :
    (ks.map fun j => (j, f j)).lookup k = some (f k) := by
  induction ks with
  | nil => simp at hk
  | cons j ks ih =>
    rw [List.map_cons, List.lookup_cons]
    by_cases h : k = j
    · subst h
      simp
    · rw [beq_eq_false_iff_ne.mpr h]
      exact ih ((List.mem_cons.mp hk).resolve_left h)

theorem put_of_notMem {k : String} (v : α) {fs : List (String × α)} (h : k ∉ names fs) :
    put k v fs = fs ++ [(k, v)] := by
  induction fs with
  | nil => rfl
  | cons p fs ih =>
    obtain ⟨j, w⟩ := p
    rw [names_cons, List.mem_cons, not_or] at h
    rw [put_cons, if_neg (Ne.symm h.1), ih h.2, List.cons_append]

/-- pairs with distinct names are fields as they stand -/
theorem ofPairs_of_nodup {ps : List (String × α)} (h : (names ps).Nodup) : ofPairs ps = ps := by
  have hfold : ∀ qs rs : List (String × α), (names (rs ++ qs)).Nodup →
      qs.foldl (fun fs p => put p.1 p.2 fs) rs = rs ++ qs := by
    intro qs
    induction qs with
    | nil => simp
    | cons p qs ih =>
      intro rs hn
      have hp : p.1 ∉ names rs := by
        rw [names, List.map_append, List.map_cons] at hn
        exact fun hmem => (List.nodup_append.mp hn).2.2 _ hmem _ (by simp) rfl
      rw [List.foldl_cons, put_of_notMem _ hp, ih _ (by simpa using hn)]
      simp
  exact hfold ps [] h

theorem ofPairs_concat (ps : List (String × α)) (p : String × α) :
    ofPairs (ps ++ [p]) = put p.1 p.2 (ofPairs ps) := by
  rw [ofPairs, List.foldl_append]
  rfl

theorem names_ofPairs (ps : List (String × α)) : names (ofPairs ps) = distinct (names ps) := by
  induction ps using List.reverseRecOn with
  | nil => rfl
  | append_singleton ps p ih =>
    have hnames : names (ps ++ [p]) = names ps ++ [p.1] := List.map_append
    rw [ofPairs_concat, names_put, ih, hnames, distinct_concat]

theorem lookup_ofPairs (k : String) (ps : List (String × α)) :
    (ofPairs ps).lookup k = ps.reverse.lookup k := by
  induction ps using List.reverseRecOn with
  | nil => rfl
  | append_singleton ps p ih =>
    rw [ofPairs_concat, List.reverse_append, List.reverse_singleton, List.singleton_append,
      List.lookup_cons]
    by_cases h : k = p.1
    · rw [h, lookup_put_self, beq_self_eq_true]
    · rw [lookup_put_of_ne h, ih, beq_eq_false_iff_ne.mpr h]

end SampleTypes.Fields
