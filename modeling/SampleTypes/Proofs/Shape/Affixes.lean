import SampleTypes.Proofs.Shape.Name
import SampleTypes.Shape.Kind

/-!
# The characters of names

With affixes of ASCII letters, digits, underscores and dollar signs every generated name consists
of such characters, and one of them is a capital or a digit.  So a generated name is neither a
basic type nor written as an array.

* `Affixes.isPlain a`   whether the affixes are of such characters;
* `IsTypeName n`        what is known of a generated name;
* `isTypeName_recordName`, `isTypeName_idValueName`   generated names are such.
-/

namespace SampleTypes

/-- ASCII letters, digits, the underscore and the dollar sign -/
def isAffixChar (c : Char) : Bool := Text.isAsciiAlnum c || c == '_' || c == '$'

def Affixes.isPlain (a : Affixes) : Bool :=
  a.lead.toList.all isAffixChar && a.trail.toList.all isAffixChar

namespace Name

/-! ## ASCII -/

theorem toNat_lt_of_isAsciiAlnum {c : Char} (h : Text.isAsciiAlnum c = true) : c.toNat < 128 := by
  simp only [Text.isAsciiAlnum, Text.isAsciiDigit, Text.isAsciiLetter, Text.isAsciiUpper,
    Text.isAsciiLower, Bool.or_eq_true, Bool.and_eq_true, decide_eq_true_eq, Char.le_def,
    UInt32.le_iff_toNat_le] at h
  show c.val.toNat < 128
  have h9 : '9'.val.toNat = 57 := rfl
  have hZ : 'Z'.val.toNat = 90 := rfl
  have hz : 'z'.val.toNat = 122 := rfl
  omega

/-- what holds of all letters and digits of ASCII can be tested -/
theorem of_alnum {P : Char → Prop}
    (h : ∀ n < 128, Text.isAsciiAlnum (Char.ofNat n) = true → P (Char.ofNat n)) {c : Char}
    (hc : Text.isAsciiAlnum c = true) : P c := by
  have := h c.toNat (toNat_lt_of_isAsciiAlnum hc)
  rw [Char.ofNat_toNat] at this
  exact this hc

/-- a capital or a digit -/
def isMark (c : Char) : Bool := Text.isAsciiUpper c || Text.isAsciiDigit c

theorem isAsciiAlnum_toLowerAscii {c : Char} (h : Text.isAsciiAlnum c = true) :
    Text.isAsciiAlnum (toLowerAscii c) = true := by
  refine of_alnum (P := fun c => Text.isAsciiAlnum (toLowerAscii c) = true) ?_ h
  decide

theorem toUpperAscii_spec {c : Char} (h : Text.isAsciiAlnum c = true) :
    Text.isAsciiAlnum (toUpperAscii c) = true ∧ isMark (toUpperAscii c) = true := by
  refine of_alnum (P := fun c => Text.isAsciiAlnum (toUpperAscii c) = true ∧
    isMark (toUpperAscii c) = true) ?_ h
  decide

/-! ## names -/

theorem pascalFrom_alnum (inRun : Bool) (cs : List Char) :
    ∀ c ∈ pascalFrom inRun cs, Text.isAsciiAlnum c = true := by
  induction cs generalizing inRun with
  | nil => simp [pascalFrom]
  | cons d cs ih =>
    rw [pascalFrom]
    split
    · rename_i hd
      refine List.forall_mem_cons.mpr ⟨?_, ih true⟩
      split
      · exact isAsciiAlnum_toLowerAscii hd
      · exact (toUpperAscii_spec hd).1
    · split
      · exact ih inRun
      · exact ih false

theorem alnum_pascalCase (key : String) :
    ∀ c ∈ (pascalCase key).toList, Text.isAsciiAlnum c = true := by
  rw [pascalCase, String.toList_ofList]
  exact pascalFrom_alnum false key.toList

/-- a capitalised key begins with its first letter or digit -/
theorem head?_pascalFrom (cs : List Char) :
    (pascalFrom false cs).head? = (cs.find? Text.isAsciiAlnum).map toUpperAscii := by
  induction cs with
  | nil => rfl
  | cons c cs ih =>
    rw [pascalFrom]
    by_cases hc : Text.isAsciiAlnum c = true
    · rw [if_pos hc, List.find?_cons_of_pos hc]
      rfl
    · rw [if_neg hc, List.find?_cons_of_neg hc, ite_self]
      exact ih

theorem head?_pascalCase (key : String) : (pascalCase key).toList.head? =
    (key.toList.find? Text.isAsciiAlnum).map toUpperAscii := by
  rw [pascalCase, String.toList_ofList, head?_pascalFrom]

/-- the first character of a capitalised key is a capital or a digit -/
theorem exists_mark_of_ne_empty {key : String} (h : pascalCase key ≠ "") :
    ∃ c, (pascalCase key).toList.head? = some c ∧ isMark c = true := by
  obtain ⟨c, cs, e⟩ := exists_toList_cons h
  have hc : (pascalCase key).toList.head? = some c := by
    rw [e]
    rfl
  refine ⟨c, hc, ?_⟩
  rw [head?_pascalCase] at hc
  obtain ⟨d, hd, rfl⟩ := Option.map_eq_some_iff.mp hc
  exact (toUpperAscii_spec (List.find?_some hd)).2

/-- letters and digits of ASCII, with a capital or a digit among them -/
def IsWord (n : String) : Prop :=
  (∀ c ∈ n.toList, Text.isAsciiAlnum c = true) ∧ ∃ c ∈ n.toList, isMark c = true

theorem isWord_of_test {n : String}
    (h : (n.toList.all Text.isAsciiAlnum && n.toList.any isMark) = true) : IsWord n := by
  rw [Bool.and_eq_true, List.all_eq_true, List.any_eq_true] at h
  exact h

theorem ne_empty_of_mark {n : String} (h : ∃ c ∈ n.toList, isMark c = true) : n ≠ "" := by
  rintro rfl
  obtain ⟨c, hc, _⟩ := h
  simp at hc

theorem IsWord.ne_empty {n : String} (h : IsWord n) : n ≠ "" := ne_empty_of_mark h.2

theorem IsWord.append {m n : String} (hm : IsWord m) (hn : IsWord n) : IsWord (m ++ n) := by
  obtain ⟨c, hc, hmark⟩ := hm.2
  rw [IsWord, String.toList_append]
  exact ⟨List.forall_mem_append.mpr ⟨hm.1, hn.1⟩, c, List.mem_append_left _ hc, hmark⟩

theorem isWord_fragment (key : String) : IsWord (fragment key) := by
  rw [fragment]
  split
  · exact isWord_of_test rfl
  · rename_i hne
    obtain ⟨c, hc, hmark⟩ := exists_mark_of_ne_empty hne
    exact ⟨alnum_pascalCase key, c, List.mem_of_head? hc, hmark⟩

theorem isWord_plain (keys : List String) : IsWord (plain keys) := by
  match keys with
  | [] => exact isWord_of_test rfl
  | [key] => exact isWord_fragment key
  | key :: parent :: _ =>
    show IsWord (nested parent key)
    rw [nested]
    split
    · exact IsWord.append (isWord_of_test rfl) (isWord_fragment key)
    · split
      · exact (isWord_fragment key).append (isWord_of_test rfl)
      · exact isWord_fragment key

end Name

open Name

/-- characters of affixes, with a capital or a digit among them -/
def IsTypeName (n : String) : Prop :=
  (∀ c ∈ n.toList, isAffixChar c = true) ∧ ∃ c ∈ n.toList, isMark c = true

theorem isAffixChar_of_alnum {c : Char} (h : Text.isAsciiAlnum c = true) :
    isAffixChar c = true := by
  rw [isAffixChar, h]
  rfl

theorem Affixes.isTypeName_around {a : Affixes} (ha : a.isPlain = true) {n : String}
    (hn : Name.IsWord n) : IsTypeName (a.around n) := by
  rw [Affixes.isPlain, Bool.and_eq_true, List.all_eq_true, List.all_eq_true] at ha
  obtain ⟨c, hc, hmark⟩ := hn.2
  rw [IsTypeName, Affixes.around, String.toList_append, String.toList_append]
  refine ⟨?_, c, List.mem_append_left _ (List.mem_append_right _ hc), hmark⟩
  refine List.forall_mem_append.mpr ⟨List.forall_mem_append.mpr ⟨ha.1, ?_⟩, ha.2⟩
  exact fun d hd => isAffixChar_of_alnum (hn.1 d hd)

theorem isTypeName_recordName {a : Affixes} (ha : a.isPlain = true) (path : Path) :
    IsTypeName (recordName a path) := Affixes.isTypeName_around ha (isWord_plain _)

theorem idValueName_eq_around (a : Affixes) :
    idValueName a = (⟨a.lead, ""⟩ : Affixes).around "IdValue" := by
  rw [Affixes.around, String.append_empty, idValueName]

theorem isTypeName_idValueName {a : Affixes} (ha : a.isPlain = true) :
    IsTypeName (idValueName a) := by
  rw [idValueName_eq_around]
  refine Affixes.isTypeName_around ?_ (isWord_of_test rfl)
  rw [Affixes.isPlain, Bool.and_eq_true] at ha ⊢
  exact ⟨ha.1, rfl⟩

namespace IsTypeName

variable {n : String}

/-- a name is no word of small letters -/
theorem ne_of_small (h : IsTypeName n) {w : String}
    (hw : w.toList.all (fun c => !isMark c) = true) : n ≠ w := by
  rintro rfl
  obtain ⟨c, hc, hmark⟩ := h.2
  have := List.all_eq_true.mp hw c hc
  simp [hmark] at this

theorem ne_unknown (h : IsTypeName n) : n ≠ "unknown" := h.ne_of_small (by decide)

theorem ne_basic (h : IsTypeName n) (p : Primitive) : n ≠ p.name := by
  refine h.ne_of_small ?_
  cases p <;> decide

theorem ne_empty (h : IsTypeName n) : n ≠ "" := ne_empty_of_mark h.2

end IsTypeName

end SampleTypes
