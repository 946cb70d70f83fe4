import SampleTypes.Shape.Name

/-!
# Names and the steps of a path

* `isArrayMarker_marker`   the step to an array's item is a marker, whatever the index;
* `SameKeys p q`           paths of one length with the same keys: they lead to the same name;
* `append_ne_of_head?`, `append_ne_of_getLast?`   names that begin or end otherwise are different.
-/

namespace SampleTypes.Name

theorem isDigit_of_isDigit {c : Char} (h : c.isDigit = true) : Text.isDigit c = true := by
  have ha : Text.isAsciiDigit c = true := by
    rw [Text.isAsciiDigit, Bool.and_eq_true, decide_eq_true_eq, decide_eq_true_eq]
    rw [Char.isDigit, Bool.and_eq_true, decide_eq_true_eq, decide_eq_true_eq] at h
    exact h
  simp [Text.isDigit, Text.digitValue?, ha]

theorem isMarkerTail_of_digits {ds : List Char} (h : ∀ c ∈ ds, Text.isDigit c = true) :
    isMarkerTail (ds ++ [']']) = true := by
  have hb : Text.isDigit ']' = false := rfl
  have e : (ds ++ [']']).dropWhile Text.isDigit = [']'] := by
    rw [List.dropWhile_append_of_pos h, List.dropWhile_cons_of_neg (by simp [hb])]
  rw [isMarkerTail, e]
  rfl

theorem isArrayMarker_marker (i : Nat) : isArrayMarker (marker i) = true := by
  have e : (marker i).toList = '[' :: ((toString i).toList ++ [']']) := by
    simp [marker, String.toList_append]
  rw [isArrayMarker, e]
  refine isMarkerTail_of_digits fun c hc => isDigit_of_isDigit ?_
  have hr : (toString i).toList = Nat.toDigits 10 i := Nat.toList_repr
  rw [hr] at hc
  exact Nat.isDigit_of_mem_toDigits (by decide) (by decide) hc

theorem keysOf_append (p q : Path) : keysOf (p ++ q) = keysOf q ++ keysOf p := by
  simp [keysOf, List.filter_append, List.reverse_append]

theorem keysOf_marker (i : Nat) : keysOf [marker i] = [] := by
  simp [keysOf, isArrayMarker_marker]

/-- paths of one length with the same keys -/
def SameKeys (p q : Path) : Prop := p.length = q.length ∧ keysOf p = keysOf q

theorem SameKeys.refl (p : Path) : SameKeys p p := ⟨rfl, rfl⟩

theorem SameKeys.append {p q : Path} (h : SameKeys p q) (r : Path) :
    SameKeys (p ++ r) (q ++ r) := by
  refine ⟨?_, ?_⟩
  · rw [List.length_append, List.length_append, h.1]
  · rw [keysOf_append, keysOf_append, h.2]

/-- the index of a step into an array does not count -/
theorem SameKeys.step {p q : Path} (h : SameKeys p q) (i j : Nat) :
    SameKeys (p ++ [marker i]) (q ++ [marker j]) := by
  refine ⟨?_, ?_⟩
  · rw [List.length_append, List.length_append, h.1]
    rfl
  · rw [keysOf_append, keysOf_append, keysOf_marker, keysOf_marker, h.2]

theorem SameKeys.recordName_eq {p q : Path} (h : SameKeys p q) (a : Affixes) :
    recordName a p = recordName a q := by
  rw [recordName, recordName, h.2]

/-! ## names apart -/

theorem exists_toList_cons {n : String} (h : n ≠ "") : ∃ c cs, n.toList = c :: cs :=
  List.exists_cons_of_ne_nil fun e => h (String.toList_eq_nil_iff.mp e)

/-- texts that begin with other characters are different -/
theorem append_ne_of_head? {m w : String} (hm : m ≠ "") (h : m.toList.head? ≠ w.toList.head?)
    (n : String) : m ++ n ≠ w := by
  rintro rfl
  obtain ⟨c, cs, e⟩ := exists_toList_cons hm
  rw [String.toList_append, e] at h
  exact h rfl

/-- texts that end with other characters are different -/
theorem append_ne_of_getLast? {n w : String} (hn : n ≠ "")
    (h : n.toList.getLast? ≠ w.toList.getLast?) (m : String) : m ++ n ≠ w := by
  rintro rfl
  have hne : n.toList ≠ [] := fun e => hn (String.toList_eq_nil_iff.mp e)
  rw [String.toList_append, List.getLast?_append,
    Option.or_of_isSome (List.getLast?_isSome.mpr hne)] at h
  exact h rfl

/-- the name of the generic type is none that ends otherwise, as basic names do -/
theorem idValueName_ne {a : Affixes} {n : String}
    (h : "IdValue".toList.getLast? ≠ n.toList.getLast?) : idValueName a ≠ n :=
  append_ne_of_getLast? (by decide) h a.lead

end SampleTypes.Name
