import SampleTypes.Declaration.Order
import SampleTypes.Proofs.Fields
import SampleTypes.Proofs.Shape.Affixes

/-!
# The identifiers in the text of a declaration

A character that cannot stand in an identifier parts a text: the identifiers of the whole are those
of the two sides.  Declarations are written with such characters around every key, name and type.

* `isGap s`                    whether a text parts what stands around it;
* `identifiers_between`        the identifiers of two texts with a gap between them;
* `TypeExpr.names t`           the names in a type;
* `identifiers_text`           the identifiers of a type are those of its names;
* `identifiers_interfaceText`  the identifiers of a declaration are those of its name, of its keys
                               and of its types, beside two words that are always there.
-/

namespace SampleTypes

namespace TypeExpr

mutual

/-- the names in a type, in the order in which they are written -/
def names : TypeExpr → List String
  | .name n => [n]
  | .array t => names t
  | .union ts => namesOfAll ts
  | .apply g t => g :: names t

def namesOfAll : List TypeExpr → List String
  | [] => []
  | t :: ts => names t ++ namesOfAll ts

end

theorem namesOfAll_eq_flatMap (ts : List TypeExpr) : namesOfAll ts = ts.flatMap names := by
  induction ts with
  | nil => rw [namesOfAll, List.flatMap_nil]
  | cons t ts ih => rw [namesOfAll, ih, List.flatMap_cons]

end TypeExpr

namespace Declaration

/-! ## texts in parts -/

/-- whether a text has a character, and none that can stand in an identifier -/
def isGap (s : String) : Bool := !s.toList.isEmpty && s.toList.all fun c => !isIdentPart c

theorem isIdentStart_of_not_part {c : Char} (h : isIdentPart c = false) :
    isIdentStart c = false := by
  cases hs : isIdentStart c with
  | false => rfl
  | true =>
    rw [isIdentPart_of_isIdentStart hs] at h
    exact h

theorem identifiersFrom_end (d : Char) (word : List Char) :
    identifiersFrom (d :: word) [] = [(d :: word).reverse] := by
  rw [identifiersFrom]
  exact List.cons_ne_nil d word

theorem identifiersFrom_append_cons {c : Char} (hc : isIdentPart c = false) (word a b : List Char) :
    identifiersFrom word (a ++ c :: b) = identifiersFrom word a ++ identifiersFrom [] b := by
  induction a generalizing word with
  | nil =>
    cases word with
    | nil =>
      have hs : ¬ isIdentStart c = true := by simp [isIdentStart_of_not_part hc]
      have hskip : identifiersFrom [] (c :: b) = identifiersFrom [] b := by
        rw [identifiersFrom, if_neg hs]
      rw [List.nil_append, hskip, identifiersFrom_nil, List.nil_append]
    | cons d word =>
      have hp : ¬ isIdentPart c = true := by simp [hc]
      have hend : identifiersFrom (d :: word) (c :: b) =
          (d :: word).reverse :: identifiersFrom [] b := by
        rw [identifiersFrom, if_neg hp]
      rw [List.nil_append, hend, identifiersFrom_end]
      rfl
  | cons e a ih =>
    cases word with
    | nil =>
      rw [List.cons_append, identifiersFrom, identifiersFrom]
      split
      · exact ih [e]
      · exact ih []
    | cons d word =>
      rw [List.cons_append, identifiersFrom, identifiersFrom]
      split
      · exact ih (e :: d :: word)
      · rw [ih [], List.cons_append]

theorem identifiersFrom_skip {cs : List Char} (h : ∀ c ∈ cs, isIdentPart c = false)
    (b : List Char) : identifiersFrom [] (cs ++ b) = identifiersFrom [] b := by
  induction cs with
  | nil => rfl
  | cons c cs ih =>
    obtain ⟨hc, hcs⟩ := List.forall_mem_cons.mp h
    have hs := isIdentStart_of_not_part hc
    rw [List.cons_append, identifiersFrom, hs]
    exact ih hcs

theorem identifiers_empty : identifiers "" = [] := by
  rw [identifiers, String.toList_empty, identifiersFrom_nil, List.map_nil]

/-- the identifiers of two texts with a gap between them -/
theorem identifiers_between {gap : String} (hgap : isGap gap = true) (s t : String) :
    identifiers (s ++ gap ++ t) = identifiers s ++ identifiers t := by
  rw [isGap, Bool.and_eq_true, List.all_eq_true] at hgap
  obtain ⟨hne, hpart⟩ := hgap
  have hpart : ∀ c ∈ gap.toList, isIdentPart c = false := fun c hc => by simpa using hpart c hc
  cases hg : gap.toList with
  | nil => simp [hg] at hne
  | cons c cs =>
    rw [hg] at hpart
    obtain ⟨hc, hcs⟩ := List.forall_mem_cons.mp hpart
    have hsides : identifiersFrom [] (s.toList ++ c :: (cs ++ t.toList)) =
        identifiersFrom [] s.toList ++ identifiersFrom [] t.toList := by
      rw [identifiersFrom_append_cons hc, identifiersFrom_skip hcs]
    rw [identifiers, String.toList_append, String.toList_append, hg, List.append_assoc,
      List.cons_append, hsides, List.map_append]
    rfl

theorem identifiers_after {gap : String} (hgap : isGap gap = true) (t : String) :
    identifiers (gap ++ t) = identifiers t := by
  have h := identifiers_between hgap "" t
  rw [String.empty_append, identifiers_empty, List.nil_append] at h
  exact h

theorem identifiers_before {gap : String} (hgap : isGap gap = true) (s : String) :
    identifiers (s ++ gap) = identifiers s := by
  have h := identifiers_between hgap s ""
  rw [String.append_empty, identifiers_empty, List.append_nil] at h
  exact h

theorem identifiers_joinTexts {sep : String} (hsep : isGap sep = true) (ts : List String) :
    identifiers (TypeExpr.joinTexts sep ts) = ts.flatMap identifiers := by
  induction ts with
  | nil => exact identifiers_empty
  | cons t ts ih =>
    cases ts with
    | nil =>
      rw [List.flatMap_cons, List.flatMap_nil, List.append_nil]
      rfl
    | cons u ts =>
      show identifiers (t ++ sep ++ TypeExpr.joinTexts sep (u :: ts)) = _
      rw [identifiers_between hsep, ih]
      rfl

/-! ## names -/

theorem identifiersFrom_parts {cs : List Char} (h : ∀ c ∈ cs, isIdentPart c = true) (d : Char)
    (word : List Char) : identifiersFrom (d :: word) cs = [(d :: word).reverse ++ cs] := by
  induction cs generalizing d word with
  | nil => rw [identifiersFrom_end, List.append_nil]
  | cons c cs ih =>
    obtain ⟨hc, hcs⟩ := List.forall_mem_cons.mp h
    rw [identifiersFrom, if_pos hc, ih hcs, List.reverse_cons, List.append_assoc]
    rfl

theorem isIdentPart_of_isAffixChar {c : Char} (h : isAffixChar c = true) :
    isIdentPart c = true := by
  simp only [isAffixChar, Bool.or_eq_true] at h
  rcases h with (h | h) | h
  · simp [isIdentPart, Text.isWord, h]
  · simp [isIdentPart, Text.isWord, h]
  · simp [isIdentPart, h]

/-- a name that does not begin with a digit is read as one identifier -/
theorem identifiers_name {n : String} (hn : ∀ c ∈ n.toList, isAffixChar c = true)
    (hid : isIdentifier n = true) : identifiers n = [n] := by
  rw [isIdentifier] at hid
  have hback : String.ofList n.toList = n := String.ofList_toList
  cases e : n.toList with
  | nil => simp [e, isIdentifierChars] at hid
  | cons c cs =>
    rw [e, isIdentifierChars, Bool.and_eq_true] at hid
    rw [e] at hn hback
    have hparts : ∀ d ∈ cs, isIdentPart d = true :=
      fun d hd => isIdentPart_of_isAffixChar (hn d (List.mem_cons_of_mem _ hd))
    rw [identifiers, e, identifiersFrom, if_pos hid.1, identifiersFrom_parts hparts, List.map_cons,
      List.map_nil]
    show [String.ofList (c :: cs)] = [n]
    rw [hback]

/-- a name of a type begins as its prefix does, if that is an identifier -/
theorem isIdentifier_append {s t : String} (hs : isIdentifier s = true)
    (hst : ∀ c ∈ (s ++ t).toList, isAffixChar c = true) : isIdentifier (s ++ t) = true := by
  rw [isIdentifier] at hs ⊢
  rw [String.toList_append] at hst ⊢
  cases e : s.toList with
  | nil => simp [e, isIdentifierChars] at hs
  | cons c cs =>
    rw [e] at hs hst
    rw [isIdentifierChars, Bool.and_eq_true] at hs
    have hparts : ∀ d ∈ cs ++ t.toList, isIdentPart d = true :=
      fun d hd => isIdentPart_of_isAffixChar (hst d (List.mem_cons_of_mem _ hd))
    have hdrop : (cs ++ t.toList).dropWhile isIdentPart = [] := by
      have h : ((cs ++ t.toList) ++ []).dropWhile isIdentPart = [] :=
        List.dropWhile_append_of_pos hparts
      rwa [List.append_nil] at h
    rw [List.cons_append, isIdentifierChars, hdrop, hs.1]
    rfl

/-! ## types -/

mutual

/-- the identifiers of a type are those of its names -/
theorem identifiers_text : ∀ t : TypeExpr, identifiers t.text = t.names.flatMap identifiers
  | .name n => by
    rw [TypeExpr.text, TypeExpr.names, List.flatMap_cons, List.flatMap_nil, List.append_nil]
  | .array t => by
    rw [TypeExpr.text_array, TypeExpr.names, identifiers_before (by decide), identifiers_text t]
  | .union ts => by
    rw [TypeExpr.text, TypeExpr.names, identifiers_before (by decide),
      identifiers_after (by decide), identifiers_joinTexts (by decide), identifiers_texts ts]
  | .apply g t => by
    rw [TypeExpr.text, TypeExpr.names, identifiers_before (by decide),
      identifiers_between (by decide), identifiers_text t, List.flatMap_cons]

theorem identifiers_texts :
    ∀ ts : List TypeExpr, (TypeExpr.texts ts).flatMap identifiers =
      (TypeExpr.namesOfAll ts).flatMap identifiers
  | [] => rfl
  | t :: ts => by
    rw [TypeExpr.texts, TypeExpr.namesOfAll, List.flatMap_cons, List.flatMap_append,
      identifiers_text t, identifiers_texts ts]

end

theorem identifiers_arrayType (s : Shape) :
    identifiers (arrayType s) = s.type.names.flatMap identifiers := by
  rw [arrayType]
  split
  · rw [identifiers_before (by decide), identifiers_text]
  · exact identifiers_text s.type

/-- the word that stands beside the names in the type of a field: null, where it was seen -/
def nullWords (s : Shape) : List String :=
  if s.isNullable && arrayType s != "unknown" && arrayType s != "null" then ["null"] else []

theorem nullWords_subset (s : Shape) : nullWords s ⊆ ["null"] := by
  rw [nullWords]
  split
  · exact List.Subset.refl _
  · exact List.nil_subset _

theorem identifiers_fieldType (s : Shape) :
    identifiers (fieldType s) = s.type.names.flatMap identifiers ++ nullWords s := by
  rw [fieldType, nullWords]
  split
  · have e : arrayType s ++ " | null" = arrayType s ++ " | " ++ "null" := by
      rw [String.append_assoc]
      rfl
    have hnull : identifiers "null" = ["null"] :=
      identifiers_name (List.all_eq_true.mp rfl) rfl
    rw [e, identifiers_between (by decide), identifiers_arrayType, hnull]
  · rw [identifiers_arrayType, List.append_nil]

/-! ## declarations -/

theorem identifiers_fieldLine (key : String) (s : Shape) :
    identifiers (fieldLine key s) = identifiers (keyText key) ++ identifiers (fieldType s) := by
  have hmark : isGap (optionalMark s ++ ": ") = true := by
    rw [optionalMark]
    split <;> decide
  have e : "  " ++ keyText key ++ optionalMark s ++ ": " ++ fieldType s =
      "  " ++ keyText key ++ (optionalMark s ++ ": ") ++ fieldType s := by
    simp only [String.append_assoc]
  rw [fieldLine, identifiers_before (by decide), e, identifiers_between hmark,
    identifiers_after (by decide)]

theorem identifiers_interfaceText (name : String) (fields : List (String × Shape)) :
    identifiers (interfaceText name fields) = ["export", "interface"] ++ identifiers name ++
      (Fields.sorted fields).flatMap
        fun f => identifiers (keyText f.1) ++ identifiers (fieldType f.2) := by
  have hhead : identifiers ("export interface " ++ name ++ " \x7b") =
      ["export", "interface"] ++ identifiers name := by
    have e : "export interface " = "export" ++ " " ++ "interface" ++ " " := rfl
    have hexport : identifiers "export" = ["export"] :=
      identifiers_name (List.all_eq_true.mp rfl) rfl
    have hinterface : identifiers "interface" = ["interface"] :=
      identifiers_name (List.all_eq_true.mp rfl) rfl
    rw [identifiers_before (by decide), e, identifiers_between (by decide),
      identifiers_between (by decide), hexport, hinterface]
    rfl
  have hend : identifiers "\x7d" = [] := by
    have h : identifiers ("\x7d" ++ "") = identifiers "" := identifiers_after (by decide) ""
    rw [String.append_empty, identifiers_empty] at h
    exact h
  rw [interfaceText, identifiers_joinTexts (by decide), List.flatMap_append, List.flatMap_cons,
    hhead, List.flatMap_cons, List.flatMap_nil, hend, fieldLines, List.flatMap_map, List.append_nil,
    List.append_nil]
  simp only [identifiers_fieldLine]

end Declaration

end SampleTypes
