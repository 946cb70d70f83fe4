import SampleTypes.Proofs.Shape.Initial

/-!
# Keys in pieces

A key is cut, without its brackets, at every character that is no ASCII letter or digit, and its
name is made of the pieces, each with a capital.  So keys between separators are named one by one,
and brackets do not matter to a name.

* `isSeparator c`       what ends a piece: neither an ASCII letter or digit nor a bracket;
* `withoutBrackets a`   the key without its brackets;
* `pieces cs`           the pieces of a key, empty ones included;
* `capitalised cs`      a piece as it stands in a name;
* `pascalFrom_pieces`, `pascalFrom_eq`   the name of a key from its pieces;
* `pascalCase_separated`   how keys between separators are named, and of what names consist.
-/

namespace SampleTypes.Name

def isBracket (c : Char) : Bool := c == '[' || c == ']'

/-- neither an ASCII letter or digit nor a bracket -/
def isSeparator (c : Char) : Bool := !Text.isAsciiAlnum c && !isBracket c

def withoutBrackets (key : String) : String :=
  String.ofList (key.toList.filter fun c => !isBracket c)

/-- the pieces of a key without brackets, cut where there is no ASCII letter or digit -/
def pieces (cs : List Char) : List (List Char) :=
  (cs.filter fun c => !isBracket c).splitOnP fun c => !Text.isAsciiAlnum c

/-- a piece as it stands in a name: the first character as a capital, the others small -/
def capitalised : List Char → List Char
  | [] => []
  | c :: cs => toUpperAscii c :: cs.map toLowerAscii

/-! ## pieces -/

section
variable {c : Char} {cs : List Char}

theorem isBracket_iff : isBracket c = true ↔ c = '[' ∨ c = ']' := by
  rw [isBracket, Bool.or_eq_true, beq_iff_eq, beq_iff_eq]

theorem isBracket_of_alnum (h : Text.isAsciiAlnum c = true) : isBracket c = false := by
  rw [Bool.eq_false_iff]
  intro hb
  rcases isBracket_iff.mp hb with rfl | rfl <;> exact absurd h (by decide)

theorem isSeparator_iff :
    isSeparator c = true ↔ Text.isAsciiAlnum c = false ∧ isBracket c = false := by
  rw [isSeparator, Bool.and_eq_true, Bool.not_eq_true', Bool.not_eq_true']

theorem pieces_bracket (h : isBracket c = true) : pieces (c :: cs) = pieces cs := by
  rw [pieces, List.filter_cons_of_neg (by simp [h]), pieces]

/-- a letter or digit goes before the first piece -/
theorem pieces_alnum {first : List Char} {rest : List (List Char)}
    (h : Text.isAsciiAlnum c = true) (hcs : pieces cs = first :: rest) :
    pieces (c :: cs) = (c :: first) :: rest := by
  rw [pieces] at hcs
  rw [pieces, List.filter_cons_of_pos (by simp [isBracket_of_alnum h]),
    List.splitOnP_cons_eq_if_modifyHead, if_neg (by simp [h]), hcs, List.modifyHead_cons]

/-- at a separator the pieces fall apart -/
theorem pieces_append_cons (h : isSeparator c = true) (as bs : List Char) :
    pieces (as ++ c :: bs) = pieces as ++ pieces bs := by
  obtain ⟨halnum, hbracket⟩ := isSeparator_iff.mp h
  rw [pieces, List.filter_append, List.filter_cons_of_pos (by simp [hbracket]),
    List.splitOnP_append_cons _ _ (by simp [halnum])]
  rfl

theorem pieces_separator (h : isSeparator c = true) : pieces (c :: cs) = [] :: pieces cs :=
  pieces_append_cons h [] cs

theorem pieces_withoutBrackets (key : String) :
    pieces (withoutBrackets key).toList = pieces key.toList := by
  rw [withoutBrackets, String.toList_ofList, pieces, List.filter_filter]
  simp only [Bool.and_self, pieces]

end

/-! ## names from pieces -/

theorem pascalFrom_of_bracket {c : Char} (h : isBracket c = true) (inRun : Bool) (cs : List Char) :
    pascalFrom inRun (c :: cs) = pascalFrom inRun cs := by
  rcases isBracket_iff.mp h with rfl | rfl
  · exact (pascalFrom_bracket inRun cs).1
  · exact (pascalFrom_bracket inRun cs).2

theorem pascalFrom_of_separator {c : Char} (h : isSeparator c = true) (inRun : Bool)
    (cs : List Char) : pascalFrom inRun (c :: cs) = pascalFrom false cs := by
  obtain ⟨halnum, hbracket⟩ := isSeparator_iff.mp h
  have hc : ¬ (c = '[' ∨ c = ']') := fun e => by
    rw [isBracket_iff.mpr e] at hbracket
    exact Bool.noConfusion hbracket
  rw [pascalFrom, if_neg (by simp [halnum]), if_neg hc]

/-- The name of a key from its pieces.  Where a run is going on, the first piece goes on with it and
gets no capital. -/
theorem pascalFrom_pieces (cs : List Char) :
    ∃ first rest, pieces cs = first :: rest ∧
      pascalFrom true cs = first.map toLowerAscii ++ rest.flatMap capitalised ∧
      pascalFrom false cs = capitalised first ++ rest.flatMap capitalised := by
  induction cs with
  | nil => exact ⟨[], [], rfl, rfl, rfl⟩
  | cons c cs ih =>
    obtain ⟨first, rest, hcs, hgoing, hnew⟩ := ih
    cases halnum : Text.isAsciiAlnum c with
    | true =>
      refine ⟨c :: first, rest, pieces_alnum halnum hcs, ?_, ?_⟩
      · rw [pascalFrom, if_pos halnum, if_pos rfl, hgoing]
        rfl
      · rw [pascalFrom, if_pos halnum, if_neg Bool.false_ne_true, hgoing]
        rfl
    | false =>
      cases hbracket : isBracket c with
      | true =>
        have hstep := fun inRun => pascalFrom_of_bracket hbracket inRun cs
        exact ⟨first, rest, (pieces_bracket hbracket).trans hcs, (hstep true).trans hgoing,
          (hstep false).trans hnew⟩
      | false =>
        -- the run is over, so the first piece of the rest is a new one in either case
        have hsep : isSeparator c = true := isSeparator_iff.mpr ⟨halnum, hbracket⟩
        have hstep := fun inRun => pascalFrom_of_separator hsep inRun cs
        exact ⟨[], first :: rest, (pieces_separator hsep).trans (by rw [hcs]),
          (hstep true).trans hnew, (hstep false).trans hnew⟩

theorem pascalFrom_eq (cs : List Char) : pascalFrom false cs = (pieces cs).flatMap capitalised := by
  obtain ⟨first, rest, hcs, -, hnew⟩ := pascalFrom_pieces cs
  rw [hcs, hnew, List.flatMap_cons]

/-- brackets end no piece -/
example : pascalCase "_a[0]-b" = "A0B" := by rfl

theorem pascalFrom_append_cons {c : Char} (h : isSeparator c = true) (as bs : List Char) :
    pascalFrom false (as ++ c :: bs) = pascalFrom false as ++ pascalFrom false bs := by
  rw [pascalFrom_eq, pieces_append_cons h, List.flatMap_append, ← pascalFrom_eq, ← pascalFrom_eq]

/-- separators before a key do not matter -/
theorem pascalFrom_skip {ss : List Char} (h : ∀ c ∈ ss, isSeparator c = true) (bs : List Char) :
    pascalFrom false (ss ++ bs) = pascalFrom false bs := by
  induction ss with
  | nil => rfl
  | cons c ss ih =>
    obtain ⟨hc, hss⟩ := List.forall_mem_cons.mp h
    exact (pascalFrom_append_cons hc [] (ss ++ bs)).trans (ih hss)

theorem pascalCase_append {s : String} (hne : s ≠ "")
    (h : ∀ c ∈ s.toList, isSeparator c = true) (a b : String) :
    pascalCase (a ++ s ++ b) = pascalCase a ++ pascalCase b := by
  obtain ⟨c, ss, hs⟩ := exists_toList_cons hne
  rw [hs] at h
  obtain ⟨hc, hss⟩ := List.forall_mem_cons.mp h
  have hchars : pascalFrom false (a ++ s ++ b).toList =
      pascalFrom false a.toList ++ pascalFrom false b.toList := by
    rw [String.toList_append, String.toList_append, hs, List.append_assoc, List.cons_append,
      pascalFrom_append_cons hc, pascalFrom_skip hss]
  rw [pascalCase, hchars, String.ofList_append]
  rfl

/-- a key is named as it is without its brackets -/
theorem pascalCase_withoutBrackets (key : String) :
    pascalCase (withoutBrackets key) = pascalCase key := by
  rw [pascalCase, pascalFrom_eq, pieces_withoutBrackets, ← pascalFrom_eq, pascalCase]

/-! ## of what names consist -/

theorem pascalCase_eq_empty_iff {key : String} :
    pascalCase key = "" ↔ ∀ c ∈ key.toList, Text.isAsciiAlnum c = false := by
  rw [← String.toList_eq_nil_iff, ← List.head?_eq_none_iff, head?_pascalCase,
    Option.map_eq_none_iff, List.find?_eq_none]
  simp only [Bool.not_eq_true]

/-- Keys between separators are named one by one, and keys that differ in brackets only have one
name.  A name consists of ASCII letters and digits; it is empty exactly if the key holds none of
them, and begins with a capital or a digit otherwise.  So no record is named like a basic type,
`unknown` or `null`, whatever part of these words the affixes are. -/
theorem pascalCase_separated :
    (∀ a s b : String, s ≠ "" → (∀ c ∈ s.toList, isSeparator c = true) →
      pascalCase (a ++ s ++ b) = pascalCase a ++ pascalCase b) ∧
    (∀ a b : String, withoutBrackets a = withoutBrackets b → pascalCase a = pascalCase b) ∧
    (∀ a : String, (∀ c ∈ (pascalCase a).toList, Text.isAsciiAlnum c = true) ∧
      (pascalCase a = "" ↔ ∀ c ∈ a.toList, Text.isAsciiAlnum c = false) ∧
      (pascalCase a ≠ "" → ∃ c, (pascalCase a).toList.head? = some c ∧ isMark c = true)) ∧
    ∀ (affixes : Affixes) (path : Path), affixes.isPlain = true →
      recordName affixes path ∉ ["string", "number", "boolean", "unknown", "null"] := by
  refine ⟨fun a s b hne h => pascalCase_append hne h a b, fun a b h => ?_, fun a => ?_,
    fun affixes path hplain hmem => ?_⟩
  · rw [← pascalCase_withoutBrackets a, h, pascalCase_withoutBrackets]
  · exact ⟨alnum_pascalCase a, pascalCase_eq_empty_iff, exists_mark_of_ne_empty⟩
  · have hsmall : ∀ w ∈ ["string", "number", "boolean", "unknown", "null"],
        w.toList.all (fun c => !isMark c) = true := by decide
    exact (isTypeName_recordName hplain path).ne_of_small (hsmall _ hmem) rfl

/-- separators and a bracket at the joint and at both ends, and affixes that leave a basic type
incomplete -/
theorem pascalCase_separated_joint :
    (("-é _" ≠ "" ∧ ∀ c ∈ "-é _".toList, isSeparator c = true) ∧
      pascalCase ("_[geo" ++ "-é _" ++ "]POINT2_") = "Geo" ++ "Point2") ∧
    (withoutBrackets "a[0]b" = withoutBrackets "]a0b" ∧
      pascalCase "a[0]b" = pascalCase "]a0b") ∧
    ('0' ∈ (pascalCase "[0]").toList ∧ Text.isAsciiAlnum '0' = true) ∧
    (pascalCase "é9x" ≠ "" ∧ ∃ c, (pascalCase "é9x").toList.head? = some c ∧ isMark c = true) ∧
    ((⟨"s", ""⟩ : Affixes).isPlain = true ∧
      recordName ⟨"s", ""⟩ ["tring"] ∉ ["string", "number", "boolean", "unknown", "null"]) := by
  obtain ⟨happend, hbrackets, hname, hrecord⟩ := pascalCase_separated
  have hplain : (⟨"s", ""⟩ : Affixes).isPlain = true := by decide
  have hseparators : ∀ c ∈ "-é _".toList, isSeparator c = true := List.all_eq_true.mp rfl
  have hdigit : '0' ∈ (pascalCase "[0]").toList := by decide
  have hnine : pascalCase "é9x" ≠ "" := by decide
  have hsame : withoutBrackets "a[0]b" = withoutBrackets "]a0b" := by rfl
  refine ⟨⟨⟨by decide, hseparators⟩, ?_⟩, ⟨hsame, hbrackets _ _ hsame⟩,
    ⟨hdigit, (hname "[0]").1 '0' hdigit⟩, ⟨hnine, (hname "é9x").2.2 hnine⟩,
    hplain, hrecord _ _ hplain⟩
  exact happend "_[geo" "-é _" "]POINT2_" (by decide) hseparators

end SampleTypes.Name
