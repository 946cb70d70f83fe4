import SampleTypes.Proofs.Inference.Mentioned
import SampleTypes.Proofs.Json.Printable
import SampleTypes.Proofs.Json.Strings
import SampleTypes.Proofs.Text.Lines

/-!
# The declaration of a record type read back

The lines of a declaration are its header, a line for each field, and its closing brace.  A field's
line tells the key, whether the field may be missing or null, and its type, unless the key is
open-ended: an identifier with a line end after it, which counts as an identifier and is not quoted.

* `isOpenEnded k`        an identifier with a line end after it;
* `readField line`       the key, the mark and the type that a line shows;
* `readField_fieldLine`  they are those of the field;
* `lines_interfaceText`  the lines of a declaration;
* `mem_text`             the characters of a type;
* `interface_read_back`  what a declaration shows of its fields;
* `key_splits_line`      what an open-ended key does.
-/

namespace SampleTypes

namespace Declaration

/-! ## keys -/

/-- an identifier with a line end after it -/
def isOpenEnded (key : String) : Bool := isIdentifier key && key.toList.contains '\n'

/-- a first character and others that an identifier is made of -/
def IsBare (cs : List Char) : Prop :=
  ∃ c w, cs = c :: w ∧ isIdentStart c = true ∧ ∀ d ∈ w, isIdentPart d = true

theorem IsBare.parts {cs : List Char} (h : IsBare cs) : ∀ d ∈ cs, isIdentPart d = true := by
  obtain ⟨c, w, rfl, hc, hw⟩ := h
  exact List.forall_mem_cons.mpr ⟨isIdentPart_of_isIdentStart hc, hw⟩

theorem IsBare.lineEnd_notMem {cs : List Char} (h : IsBare cs) : '\n' ∉ cs := by
  intro hm
  have := h.parts '\n' hm
  exact absurd this (by decide)

/-- an identifier is bare, or bare up to a line end -/
theorem isIdentifierChars_cases {cs : List Char} (h : isIdentifierChars cs = true) :
    IsBare cs ∨ ∃ w, cs = w ++ ['\n'] ∧ IsBare w := by
  cases cs with
  | nil => simp [isIdentifierChars] at h
  | cons c cs =>
    rw [isIdentifierChars, Bool.and_eq_true, Bool.or_eq_true, beq_iff_eq, beq_iff_eq] at h
    obtain ⟨hc, hrest⟩ := h
    have hsplit : cs.takeWhile isIdentPart ++ cs.dropWhile isIdentPart = cs :=
      List.takeWhile_append_dropWhile
    have hw : ∀ d ∈ cs.takeWhile isIdentPart, isIdentPart d = true :=
      List.all_eq_true.mp List.all_takeWhile
    rcases hrest with hrest | hrest
    · rw [hrest, List.append_nil] at hsplit
      rw [hsplit] at hw
      exact .inl ⟨c, cs, rfl, hc, hw⟩
    · rw [hrest] at hsplit
      refine .inr ⟨c :: cs.takeWhile isIdentPart, ?_, c, _, rfl, hc, hw⟩
      rw [List.cons_append, hsplit]

theorem isBare_of_isIdentifier {key : String} (h : isIdentifier key = true)
    (hopen : isOpenEnded key = false) : IsBare key.toList := by
  rw [isOpenEnded, h, Bool.true_and] at hopen
  rcases isIdentifierChars_cases h with hbare | ⟨w, hw, _⟩
  · exact hbare
  · rw [hw] at hopen
    simp at hopen

theorem exists_of_isOpenEnded {key : String} (h : isOpenEnded key = true) :
    isIdentifier key = true ∧ ∃ w, key.toList = w ++ ['\n'] ∧ IsBare w := by
  rw [isOpenEnded, Bool.and_eq_true, List.contains_iff_mem] at h
  refine ⟨h.1, (isIdentifierChars_cases h.1).resolve_left fun hbare => ?_⟩
  exact hbare.lineEnd_notMem h.2

/-- a key stands as it is, or as the literal that is read as the key -/
theorem keyText_cases {key : String} (hopen : isOpenEnded key = false) :
    keyText key = key ∧ IsBare key.toList ∨
      keyText key = Text.literal key ∧ Json.read (keyText key) = .ok (.str key) := by
  cases hk : isIdentifier key with
  | true => exact .inl ⟨by rw [keyText, hk]; rfl, isBare_of_isIdentifier hk hopen⟩
  | false =>
    have htext : keyText key = Text.literal key := by rw [keyText, hk]; rfl
    exact .inr ⟨htext, htext ▸ Json.read_literal key⟩

theorem lineEnd_mem_keyText {key : String} :
    '\n' ∈ (keyText key).toList ↔ isOpenEnded key = true := by
  cases hk : isIdentifier key with
  | true => rw [keyText, isOpenEnded, hk, if_pos rfl, Bool.true_and, List.contains_iff_mem]
  | false =>
    have hclosed : isOpenEnded key = false := by rw [isOpenEnded, hk, Bool.false_and]
    rw [keyText, hk, hclosed, if_neg Bool.false_ne_true, Text.literal, String.toList_ofList]
    constructor
    · intro hm
      exact absurd (Text.isLiteralChar_of_mem_literalChars hm) (by decide)
    · exact fun h => Bool.noConfusion h

/-! ## reading a line -/

/-- the key at the start of some characters, and the characters after it -/
def readKey : List Char → Option (String × List Char)
  | '\x22' :: cs => (Json.string ('\x22' :: cs) cs).toOption
  | cs => some (String.ofList (cs.takeWhile isIdentPart), cs.dropWhile isIdentPart)

/-- the type between a colon and the semicolon at the end -/
def readType : List Char → Option String
  | ':' :: ' ' :: cs => if cs.getLast? = some ';' then some (String.ofList cs.dropLast) else none
  | _ => none

/-- the key of a field, whether it has a mark, and its type -/
def readField : List Char → Option (String × Bool × String)
  | ' ' :: ' ' :: cs =>
    match readKey cs with
    | none => none
    | some (key, '?' :: rest) => (readType rest).map fun t => (key, true, t)
    | some (key, rest) => (readType rest).map fun t => (key, false, t)
  | _ => none

theorem readKey_bare {w : List Char} (hw : IsBare w) {c : Char} (hc : isIdentPart c = false)
    (rest : List Char) : readKey (w ++ c :: rest) = some (String.ofList w, c :: rest) := by
  have htake : (w ++ c :: rest).takeWhile isIdentPart = w := by
    rw [List.takeWhile_append_of_pos hw.parts, List.takeWhile_cons_of_neg (by simp [hc]),
      List.append_nil]
  have hdrop : (w ++ c :: rest).dropWhile isIdentPart = c :: rest := by
    rw [List.dropWhile_append_of_pos hw.parts, List.dropWhile_cons_of_neg (by simp [hc])]
  obtain ⟨d, v, rfl, hd, _⟩ := hw
  have hquote : d ≠ '\x22' := by
    rintro rfl
    exact absurd hd (by decide)
  rw [readKey, htake, hdrop]
  simpa using hquote

theorem readKey_keyText {key : String} (hopen : isOpenEnded key = false) {c : Char}
    (hc : isIdentPart c = false) (rest : List Char) :
    readKey ((keyText key).toList ++ c :: rest) = some (key, c :: rest) := by
  rcases keyText_cases hopen with ⟨htext, hbare⟩ | ⟨htext, _⟩
  · rw [htext, readKey_bare hbare hc, String.ofList_toList]
  · have hchars : (Text.literal key).toList ++ c :: rest =
        '\x22' :: (key.toList.flatMap Text.escape ++ '\x22' :: c :: rest) := by
      rw [Text.literal, String.toList_ofList, Text.literalChars, List.cons_append, List.cons_append,
        List.append_assoc, List.singleton_append]
    rw [htext, hchars, readKey, Json.string_literal, String.ofList_toList]
    rfl

theorem toList_fieldLine (key : String) (s : Shape) :
    (fieldLine key s).toList = ' ' :: ' ' :: ((keyText key).toList ++ ((optionalMark s).toList ++
      ':' :: ' ' :: ((fieldType s).toList ++ [';']))) := by
  rw [fieldLine]
  simp only [String.toList_append, List.append_assoc]
  rfl

theorem readType_type (t : String) :
    readType (':' :: ' ' :: (t.toList ++ [';'])) = some t := by
  rw [readType, List.getLast?_concat, if_pos rfl, List.dropLast_concat, String.ofList_toList]

/-- the line of a field shows its key, its mark and its type -/
theorem readField_fieldLine {key : String} (hopen : isOpenEnded key = false) (s : Shape) :
    readField (fieldLine key s).toList =
      some (key, s.isOptional || s.isNullable, fieldType s) := by
  rw [toList_fieldLine, optionalMark]
  cases s.isOptional || s.isNullable with
  | true =>
    rw [if_pos rfl]
    show readField (' ' :: ' ' :: ((keyText key).toList ++ '?' :: (_ :: _ :: _))) = _
    rw [readField, readKey_keyText hopen rfl]
    show (readType _).map _ = _
    rw [readType_type]
    rfl
  | false =>
    rw [if_neg Bool.false_ne_true]
    show readField (' ' :: ' ' :: ((keyText key).toList ++ ':' :: (_ :: _))) = _
    rw [readField, readKey_keyText hopen rfl]
    show (readType _).map _ = _
    rw [readType_type]
    rfl

/-- after an open-ended key there is no field on the line -/
theorem readField_openEnded {key : String} (hopen : isOpenEnded key = true) (s : Shape) :
    readField (fieldLine key s).toList = none := by
  obtain ⟨hk, w, hw, hbare⟩ := exists_of_isOpenEnded hopen
  have htext : keyText key = key := by rw [keyText, hk]; rfl
  rw [toList_fieldLine, htext, hw, List.append_assoc, List.singleton_append, readField,
    readKey_bare hbare rfl]
  rfl

/-! ## lines -/

/-- the first line of a declaration -/
def headerLine (name : String) : String := "export interface " ++ name ++ " \x7b"

/-- the header, the line of each field by its key, and the closing brace -/
def declarationLines (name : String) (fields : List (String × Shape)) : List (List Char) :=
  (headerLine name).toList ::
    ((Fields.sorted fields).map (fun f => (fieldLine f.1 f.2).toList) ++ [['\x7d']])

theorem lines_interfaceText (name : String) (fields : List (String × Shape)) :
    Text.lines (interfaceText name fields).toList =
      (declarationLines name fields).flatMap Text.lines := by
  have hlines : ((headerLine name :: (fieldLines fields ++ ["\x7d"])).map String.toList) =
      declarationLines name fields := by
    rw [fieldLines, List.map_cons, List.map_append, List.map_map]
    rfl
  show Text.lines (TypeExpr.joinTexts "\n" (headerLine name ::
    (fieldLines fields ++ ["\x7d"]))).toList = _
  rw [TypeExpr.toList_joinTexts, hlines]
  exact Text.splitAt_joinWith_flatMap '\n' (List.cons_ne_nil _ _)

theorem lineEnd_mem_headerLine (name : String) :
    '\n' ∈ (headerLine name).toList ↔ '\n' ∈ name.toList := by
  have hfirst : '\n' ∉ "export interface ".toList := by decide
  have hlast : '\n' ∉ " \x7b".toList := by decide
  show '\n' ∈ ("export interface " ++ name ++ " \x7b").toList ↔ _
  rw [String.toList_append, String.toList_append, List.mem_append, List.mem_append,
    or_iff_left hlast, or_iff_right hfirst]

theorem lineEnd_mem_fieldLine (key : String) (s : Shape) : '\n' ∈ (fieldLine key s).toList ↔
    isOpenEnded key = true ∨ '\n' ∈ (fieldType s).toList := by
  have hmark : '\n' ∉ (optionalMark s).toList := by
    rw [optionalMark]
    split <;> decide
  rw [toList_fieldLine, ← lineEnd_mem_keyText]
  simp [hmark]

/-- a declaration has its lines exactly if no name, key or type ends one early -/
theorem lines_eq_declarationLines (name : String) (fields : List (String × Shape)) :
    Text.lines (interfaceText name fields).toList = declarationLines name fields ↔
      '\n' ∉ name.toList ∧
        ∀ f ∈ fields, isOpenEnded f.1 = false ∧ '\n' ∉ (fieldType f.2).toList := by
  have hfield : ∀ f : String × Shape, '\n' ∉ (fieldLine f.1 f.2).toList ↔
      isOpenEnded f.1 = false ∧ '\n' ∉ (fieldType f.2).toList := by
    intro f
    rw [lineEnd_mem_fieldLine, not_or, Bool.not_eq_true]
  rw [lines_interfaceText, Text.flatMap_lines_eq_self_iff, declarationLines, List.forall_mem_cons,
    lineEnd_mem_headerLine, List.forall_mem_append]
  refine and_congr_right fun _ => ?_
  constructor
  · rintro ⟨h, _⟩ f hf
    exact (hfield f).mp (h _ (List.mem_map_of_mem ((Fields.perm_sorted fields).mem_iff.mpr hf)))
  · intro h
    refine ⟨fun l hl => ?_, ?_⟩
    · obtain ⟨f, hf, rfl⟩ := List.mem_map.mp hl
      exact (hfield f).mpr (h f ((Fields.perm_sorted fields).mem_iff.mp hf))
    · intro l hl
      rw [List.mem_singleton.mp hl]
      decide

/-! ## types -/

/-- the characters between the names of types -/
def isTypeMark (c : Char) : Bool := "[]()<> |".toList.contains c

theorem isTypeMark_of_mem {c : Char} {t : String} (h : t.toList.all isTypeMark = true)
    (hc : c ∈ t.toList) : isTypeMark c = true := List.all_eq_true.mp h c hc

theorem mem_joinTexts {sep : String} {c : Char} {ts : List String}
    (h : c ∈ (TypeExpr.joinTexts sep ts).toList) :
    c ∈ sep.toList ∨ ∃ t ∈ ts, c ∈ t.toList := by
  rw [TypeExpr.toList_joinTexts] at h
  refine (Json.mem_joinWith h).imp_right fun ⟨cs, hcs, hc⟩ => ?_
  obtain ⟨t, ht, rfl⟩ := List.mem_map.mp hcs
  exact ⟨t, ht, hc⟩

mutual

/-- a character of a type belongs to a name or stands between names -/
theorem mem_text {c : Char} : ∀ t : TypeExpr, c ∈ t.text.toList →
    isTypeMark c = true ∨ ∃ n ∈ t.names, c ∈ n.toList
  | .name n, h => by
    rw [TypeExpr.text] at h
    rw [TypeExpr.names]
    exact .inr ⟨n, List.mem_singleton_self n, h⟩
  | .array t, h => by
    rw [TypeExpr.text, String.toList_append] at h
    rw [TypeExpr.names]
    rcases List.mem_append.mp h with h | h
    · exact mem_text t h
    · exact .inl (isTypeMark_of_mem rfl h)
  | .union ts, h => by
    rw [TypeExpr.text, String.toList_append, String.toList_append] at h
    rw [TypeExpr.names]
    rcases List.mem_append.mp h with h | h
    · rcases List.mem_append.mp h with h | h
      · exact .inl (isTypeMark_of_mem rfl h)
      · obtain h | ⟨t, ht, h⟩ := mem_joinTexts h
        · exact .inl (isTypeMark_of_mem rfl h)
        · exact mem_texts ts t ht h
    · exact .inl (isTypeMark_of_mem rfl h)
  | .apply g t, h => by
    rw [TypeExpr.text, String.toList_append, String.toList_append, String.toList_append] at h
    rw [TypeExpr.names]
    rcases List.mem_append.mp h with h | h
    · rcases List.mem_append.mp h with h | h
      · rcases List.mem_append.mp h with h | h
        · exact .inr ⟨g, List.mem_cons_self, h⟩
        · exact .inl (isTypeMark_of_mem rfl h)
      · exact (mem_text t h).imp_right fun ⟨n, hn, h⟩ => ⟨n, List.mem_cons_of_mem g hn, h⟩
    · exact .inl (isTypeMark_of_mem rfl h)

theorem mem_texts {c : Char} : ∀ (ts : List TypeExpr) (s : String), s ∈ TypeExpr.texts ts →
    c ∈ s.toList → isTypeMark c = true ∨ ∃ n ∈ TypeExpr.namesOfAll ts, c ∈ n.toList
  | [], s, hs, _ => by simp [TypeExpr.texts] at hs
  | t :: ts, s, hs, h => by
    rw [TypeExpr.texts] at hs
    rw [TypeExpr.namesOfAll]
    rcases List.mem_cons.mp hs with rfl | hs
    · exact (mem_text t h).imp_right fun ⟨n, hn, h⟩ => ⟨n, List.mem_append_left _ hn, h⟩
    · exact (mem_texts ts s hs h).imp_right fun ⟨n, hn, h⟩ => ⟨n, List.mem_append_right _ hn, h⟩

end

/-! ## inferred types -/

/-- a name has no line end if the affixes have none -/
theorem lineEnd_notMem_around {a : Affixes} (hlead : '\n' ∉ a.lead.toList)
    (htrail : '\n' ∉ a.trail.toList) {n : String} (hn : Name.IsWord n) :
    '\n' ∉ (a.around n).toList := by
  have hword : '\n' ∉ n.toList := by
    intro h
    have := hn.1 '\n' h
    exact absurd this (by decide)
  rw [Affixes.around, String.toList_append, String.toList_append, List.mem_append, List.mem_append]
  rintro ((h | h) | h)
  · exact hlead h
  · exact hword h
  · exact htrail h

theorem lineEnd_notMem_shapeAt {s : Settings} (hlead : '\n' ∉ s.affixes.lead.toList)
    (htrail : '\n' ∉ s.affixes.trail.toList) (path : Path) (v : Json) :
    '\n' ∉ (Infer.shapeAt s path v).type.text.toList := by
  have hbasic : ∀ n, TypeExpr.IsBasic n → '\n' ∉ n.toList := by
    rintro n (rfl | ⟨p, rfl⟩)
    · decide
    · cases p <;> decide
  have hgeneric : '\n' ∉ (Name.idValueName s.affixes).toList := by
    rw [idValueName_eq_around]
    exact lineEnd_notMem_around (a := ⟨s.affixes.lead, ""⟩) hlead List.not_mem_nil
      (Name.isWord_of_test rfl)
  intro h
  rcases mem_text _ h with hmark | ⟨n, hn, hmem⟩
  · exact absurd hmark (by decide)
  · exact Infer.names_shapeAt hbasic
      (fun q => lineEnd_notMem_around hlead htrail (Name.isWord_plain _)) hgeneric path v n hn hmem

/-- what stands around the type of a field has no line end -/
theorem lineEnd_mem_fieldType (s : Shape) :
    '\n' ∈ (fieldType s).toList ↔ '\n' ∈ s.type.text.toList := by
  have hmany : '\n' ∉ "[]".toList := by decide
  have hnull : '\n' ∉ " | null".toList := by decide
  have harray : '\n' ∈ (arrayType s).toList ↔ '\n' ∈ s.type.text.toList := by
    rw [arrayType]
    split
    · rw [String.toList_append, List.mem_append, or_iff_left hmany]
    · exact Iff.rfl
  rw [fieldType, ← harray]
  split
  · rw [String.toList_append, List.mem_append, or_iff_left hnull]
  · exact Iff.rfl

/-- the types of inferred fields have no line end if the affixes have none -/
theorem lineEnd_notMem_inferFields {s : Settings} (hlead : '\n' ∉ s.affixes.lead.toList)
    (htrail : '\n' ∉ s.affixes.trail.toList) (path : Path) (p : Progress) (fs : Record) :
    ∀ f ∈ (Infer.inferFields s path p fs).1, '\n' ∉ (fieldType f.2).toList := by
  have hall : ∀ q ∈ fs, Infer.Splits s q.2 := fun q _ => Infer.splits s q.2
  intro f hf
  rw [(Infer.inferFields_split hall path p).1, Infer.fieldShapesAt] at hf
  obtain ⟨q, _, rfl⟩ := List.mem_map.mp hf
  rw [lineEnd_mem_fieldType, Infer.type_fieldShape]
  exact lineEnd_notMem_shapeAt hlead htrail _ _

theorem keyText_injective {j k : String} (hj : isOpenEnded j = false) (hk : isOpenEnded k = false)
    (h : keyText j = keyText k) : j = k := by
  have hread : ∀ i, isOpenEnded i = false →
      readKey ((keyText i).toList ++ [':']) = some (i, [':']) :=
    fun i hi => readKey_keyText hi rfl []
  have hboth := hread j hj
  rw [h, hread k hk] at hboth
  exact (Prod.mk.inj (Option.some.inj hboth)).1.symm

/-- The declaration of a record type is its header, a line for each field by its key, and its
closing brace exactly if no name, key or type ends a line early, and of types inferred with affixes
of one line none does.  A key that is not open-ended stands as it is or as its literal, and its
line shows the key, whether the field may be missing or null, and its type; the line of an
open-ended one shows no field. -/
theorem interface_read_back (name : String) (fields : List (String × Shape)) :
    (Text.lines (interfaceText name fields).toList = (headerLine name).toList ::
        ((Fields.sorted fields).map (fun f => (fieldLine f.1 f.2).toList) ++ [['\x7d']]) ↔
      '\n' ∉ name.toList ∧
        ∀ f ∈ fields, isOpenEnded f.1 = false ∧ '\n' ∉ (fieldType f.2).toList) ∧
    (∀ (s : Settings) (path : Path) (p : Progress) (fs : Record),
      '\n' ∉ s.affixes.lead.toList → '\n' ∉ s.affixes.trail.toList →
      ∀ f ∈ (Infer.inferFields s path p fs).1, '\n' ∉ (fieldType f.2).toList) ∧
    (Fields.sorted fields).Perm fields ∧
    (Fields.sorted fields).Pairwise (fun f g => f.1 ≤ g.1) ∧
    ((Fields.names fields).Nodup → ∀ gs, fields.Perm gs →
      interfaceText name fields = interfaceText name gs) ∧
    (∀ k s, isOpenEnded k = false →
      (keyText k = k ∧ IsBare k.toList ∨
        keyText k = Text.literal k ∧ Json.read (keyText k) = .ok (.str k)) ∧
      readField (fieldLine k s).toList = some (k, s.isOptional || s.isNullable, fieldType s)) ∧
    (∀ j k, isOpenEnded j = false → isOpenEnded k = false → keyText j = keyText k → j = k) ∧
    ∀ k s, isOpenEnded k = true →
      readField (fieldLine k s).toList = none ∧ '\n' ∈ (fieldLine k s).toList := by
  refine ⟨lines_eq_declarationLines name fields, fun s path p fs hlead htrail =>
    lineEnd_notMem_inferFields hlead htrail path p fs, Fields.perm_sorted fields,
    Fields.pairwise_sorted fields, ?_, ?_, fun j k => keyText_injective, ?_⟩
  · intro hnames gs hperm
    rw [interfaceText, interfaceText, fieldLines, fieldLines,
      Fields.sorted_eq_of_perm hnames hperm]
  · exact fun k s hk => ⟨keyText_cases hk, readField_fieldLine hk s⟩
  · exact fun k s hk => ⟨readField_openEnded hk s, (lineEnd_mem_fieldLine k s).mpr (.inl hk)⟩

theorem interface_read_back_quoted :
    let fields := (Infer.inferFields {} [] {} [("a\nb", .null)]).1
    Text.lines (interfaceText "Hit" fields).toList =
        ["export interface Hit \x7b".toList, "  \x22a\\nb\x22?: unknown;".toList, ['\x7d']] ∧
      Json.read (keyText "a\nb") = .ok (.str "a\nb") ∧
      readField "  \x22a\\nb\x22?: unknown;".toList = some ("a\nb", true, "unknown") := by
  intro fields
  have hsorted : Fields.sorted fields = fields := List.mergeSort_singleton _
  have hclosed : isOpenEnded "a\nb" = false := by decide
  have hline : fieldLine "a\nb" { type := .unknown, isNullable := true } =
      "  \x22a\\nb\x22?: unknown;" := by decide
  obtain ⟨hlines, htypes, _, _, _, hfield, _⟩ := interface_read_back "Hit" fields
  obtain ⟨hkey, hread⟩ := hfield "a\nb" { type := .unknown, isNullable := true } hclosed
  have hone : ∀ f ∈ fields, '\n' ∉ (fieldType f.2).toList :=
    htypes {} [] {} _ (by decide) (by decide)
  have hopen : ∀ f ∈ fields, isOpenEnded f.1 = false := by decide
  refine ⟨?_, (hkey.resolve_left fun h => ?_).2, hline ▸ hread⟩
  · rw [hlines.mpr ⟨by decide, fun f hf => ⟨hopen f hf, hone f hf⟩⟩, hsorted]
    rfl
  · exact absurd h.1 (by decide)

/-! ## a key that ends its line -/

/-- the line of an open-ended key is two lines, and neither of them shows the key -/
theorem key_splits_line :
    let fields := (Infer.inferFields {} [] {} [("a\n", .int 1)]).1
    fields = [("a\n", { type := .name "number" })] ∧
      interfaceText "Hit" fields = "export interface Hit \x7b\n  a\n: number;\n\x7d" ∧
      Text.lines (interfaceText "Hit" fields).toList =
        ["export interface Hit \x7b".toList, "  a".toList, ": number;".toList, ['\x7d']] ∧
      readField "  a".toList = none ∧ readField ": number;".toList = none := by
  intro fields
  have hsorted : Fields.sorted fields = fields := List.mergeSort_singleton _
  have htext : interfaceText "Hit" fields =
      "export interface Hit \x7b\n  a\n: number;\n\x7d" := by
    rw [interfaceText, fieldLines, hsorted]
    rfl
  refine ⟨rfl, htext, ?_, rfl, rfl⟩
  rw [htext]
  rfl

end Declaration

end SampleTypes
