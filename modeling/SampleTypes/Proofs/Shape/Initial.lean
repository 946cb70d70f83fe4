import SampleTypes.Proofs.Shape.Affixes

/-!
# How names begin

A key is capitalised from its first ASCII letter or digit on, so the name that is made of it begins
with this character.  A digit stays as it is.

* `startsWithDigit n`       whether the first character of a text is a digit;
* `Name.digitFirst key`     whether the first letter or digit of a key is a digit;
* `Name.pathDigitFirst ks`  the same of the name that is made of some keys;
* `Name.valuesWord path`    the name of a value set without affixes;
* `startsWithDigit_plain`, `startsWithDigit_valuesWord`   the names begin so.
-/

namespace SampleTypes

/-- whether the first character of a text is a digit -/
def startsWithDigit (n : String) : Bool := n.toList.head?.any Text.isAsciiDigit

theorem startsWithDigit_append {m : String} (hm : m ≠ "") (n : String) :
    startsWithDigit (m ++ n) = startsWithDigit m := by
  obtain ⟨c, cs, e⟩ := Name.exists_toList_cons hm
  rw [startsWithDigit, startsWithDigit, String.toList_append, e]
  rfl

namespace Name

/-- whether the first letter or digit of a key is a digit -/
def digitFirst (key : String) : Bool :=
  (key.toList.find? Text.isAsciiAlnum).any Text.isAsciiDigit

/-- whether the name of a record begins with a digit, from the keys that lead to it, last one
first -/
def pathDigitFirst : List String → Bool
  | [] => false
  | [key] => digitFirst key
  | key :: parent :: _ => decide (parent ≠ "campground") && digitFirst key

theorem isAsciiDigit_toUpperAscii {c : Char} (h : Text.isAsciiAlnum c = true) :
    Text.isAsciiDigit (toUpperAscii c) = Text.isAsciiDigit c := by
  refine of_alnum (P := fun c => Text.isAsciiDigit (toUpperAscii c) = Text.isAsciiDigit c) ?_ h
  decide

/-- capitals do not matter to the question whether there is a digit -/
theorem any_digit_map {cs : List Char} :
    ((cs.find? Text.isAsciiAlnum).map toUpperAscii).any Text.isAsciiDigit =
      (cs.find? Text.isAsciiAlnum).any Text.isAsciiDigit := by
  cases h : cs.find? Text.isAsciiAlnum with
  | none => rfl
  | some c => exact isAsciiDigit_toUpperAscii (List.find?_some h)

theorem startsWithDigit_pascalCase (key : String) :
    startsWithDigit (pascalCase key) = digitFirst key := by
  rw [startsWithDigit, head?_pascalCase, any_digit_map, digitFirst]

theorem startsWithDigit_fragment (key : String) :
    startsWithDigit (fragment key) = digitFirst key := by
  rw [fragment]
  split
  · rename_i h
    rw [← startsWithDigit_pascalCase, h]
    rfl
  · exact startsWithDigit_pascalCase key

theorem startsWithDigit_plain (keys : List String) :
    startsWithDigit (plain keys) = pathDigitFirst keys := by
  match keys with
  | [] => rfl
  | [key] => exact startsWithDigit_fragment key
  | key :: parent :: _ =>
    show startsWithDigit (nested parent key) = (decide (parent ≠ "campground") && digitFirst key)
    rw [nested]
    by_cases hp : parent = "campground"
    · rw [if_pos hp, startsWithDigit_append (by decide), decide_eq_false (by simpa using hp)]
      rfl
    · rw [if_neg hp, decide_eq_true hp, Bool.true_and, ← startsWithDigit_fragment key]
      split
      · exact startsWithDigit_append (isWord_fragment key).ne_empty "Info"
      · rfl

/-- capitalised keys in a row begin as the keys in a row do -/
theorem startsWithDigit_join (path : List String) :
    startsWithDigit (String.join (path.map pascalCase)) = digitFirst (String.join path) := by
  induction path with
  | nil => rfl
  | cons key path ih =>
    have hhead := head?_pascalCase key
    rw [List.map_cons, String.join_cons, String.join_cons, digitFirst, String.toList_append,
      List.find?_append]
    by_cases he : pascalCase key = ""
    · have hnone : key.toList.find? Text.isAsciiAlnum = none := by
        rw [he] at hhead
        exact Option.map_eq_none_iff.mp hhead.symm
      rw [he, String.empty_append, ih, hnone, Option.none_or, digitFirst]
    · have hsome : (key.toList.find? Text.isAsciiAlnum).isSome = true := by
        rw [← Option.isSome_map, ← hhead, List.isSome_head?]
        exact fun e => he (String.toList_eq_nil_iff.mp e)
      rw [startsWithDigit_append he, startsWithDigit_pascalCase, Option.or_of_isSome hsome,
        digitFirst]

/-- the name of a value set without affixes -/
def valuesWord (path : List String) : String := String.join (path.map pascalCase) ++ "Values"

theorem isWord_valuesWord (path : List String) : IsWord (valuesWord path) := by
  have hkeys : ∀ c ∈ (String.join (path.map pascalCase)).toList, Text.isAsciiAlnum c = true := by
    induction path with
    | nil => simp
    | cons key path ih =>
      rw [List.map_cons, String.join_cons, String.toList_append]
      exact List.forall_mem_append.mpr ⟨alnum_pascalCase key, ih⟩
  have hvalues : IsWord "Values" := isWord_of_test rfl
  obtain ⟨c, hc, hmark⟩ := hvalues.2
  rw [IsWord, valuesWord, String.toList_append]
  exact ⟨List.forall_mem_append.mpr ⟨hkeys, hvalues.1⟩, c, List.mem_append_right _ hc, hmark⟩

theorem startsWithDigit_valuesWord (path : List String) :
    startsWithDigit (valuesWord path) = digitFirst (String.join path) := by
  rw [← startsWithDigit_join, valuesWord]
  by_cases he : String.join (path.map pascalCase) = ""
  · rw [he]
    rfl
  · exact startsWithDigit_append he "Values"

end Name

end SampleTypes
