import SampleTypes.Proofs.Declaration.Declared

/-!
# The comments of a document

A comment ends at the first `*/` after its opening, whoever wrote it.  The text of a comment is
made of words of a type name, of an index name, or of the keys of a path, and the last two are
written as they are.

* `pastComment cs`    what a reader finds after the comment at the start of a text;
* `Closed c`          a comment that nothing but its own last characters closes;
* `closed_between`    so it is exactly if no `*/` stands between its first and last line;
* `comments_close`    the comments of a document, and which of them are closed;
* `key_closes_comment`  a key that closes the comment on its value set.
-/

namespace SampleTypes

namespace Declaration

open Infer Name

/-- the end of a comment -/
def closing : List Char := ['*', '/']

/-- what comes after the first end of a comment -/
def pastClosing : List Char → Option (List Char)
  | [] => none
  | c :: cs => if closing.isPrefixOf (c :: cs) then some (cs.drop 1) else pastClosing cs

/-- what comes after the comment at the start of a text -/
def pastComment : List Char → Option (List Char)
  | '/' :: '*' :: cs => pastClosing cs
  | _ => none

/-- whatever comes after the comment, a reader goes on right there -/
def Closed (comment : String) : Prop :=
  ∀ rest, pastComment (comment.toList ++ rest) = some rest

/-- whether a text can stand in a comment -/
def isHarmless (text : String) : Bool := !occursIn closing text.toList

/-! ## the first closing -/

theorem isPrefixOf_closing_cons (c d : Char) (cs ds : List Char) :
    closing.isPrefixOf (c :: d :: cs) = closing.isPrefixOf (c :: d :: ds) := by
  simp [closing, List.isPrefixOf]

theorem isPrefixOf_closing_end {c d : Char} (hd : d ≠ '/') (cs : List Char) :
    closing.isPrefixOf (c :: d :: cs) = false := by
  have h : ('/' == d) = false := by simpa using fun e => hd e.symm
  simp [closing, List.isPrefixOf, h]

/-- a character that cannot end a closing keeps what stands before it apart from the rest -/
theorem occursIn_append (cs : List Char) {d : Char} (hd : d ≠ '/') (hs : d ≠ '*')
    (ds : List Char) :
    occursIn closing (cs ++ d :: ds) = (occursIn closing cs || occursIn closing ds) := by
  induction cs with
  | nil =>
    have h : ('*' == d) = false := by simpa using fun e => hs e.symm
    show (closing.isPrefixOf (d :: ds) || occursIn closing ds) = _
    simp [closing, List.isPrefixOf, occursIn, h]
  | cons c cs ih =>
    show (closing.isPrefixOf (c :: (cs ++ d :: ds)) || occursIn closing (cs ++ d :: ds)) =
      (closing.isPrefixOf (c :: cs) || occursIn closing cs || occursIn closing ds)
    rw [ih, Bool.or_assoc]
    congr 1
    cases cs with
    | nil =>
      show closing.isPrefixOf (c :: d :: ds) = _
      rw [isPrefixOf_closing_end hd]
      simp [closing, List.isPrefixOf]
    | cons e cs => exact isPrefixOf_closing_cons c e _ _

theorem occursIn_of_not_mem {cs : List Char} (h : '/' ∉ cs) : occursIn closing cs = false := by
  induction cs with
  | nil => rfl
  | cons c cs ih =>
    have hcs : '/' ∉ cs := fun hm => h (List.mem_cons_of_mem _ hm)
    show (closing.isPrefixOf (c :: cs) || occursIn closing cs) = false
    rw [ih hcs, Bool.or_false]
    cases cs with
    | nil => simp [closing, List.isPrefixOf]
    | cons d cs => exact isPrefixOf_closing_end (fun e => hcs (e ▸ List.mem_cons_self)) cs

theorem pastClosing_skip {cs : List Char} (h : occursIn closing cs = false) {d : Char}
    (hd : d ≠ '/') (hs : d ≠ '*') (rest : List Char) :
    pastClosing (cs ++ d :: rest) = pastClosing rest := by
  induction cs with
  | nil =>
    have hne : ('*' == d) = false := by simpa using fun e => hs e.symm
    show (if closing.isPrefixOf (d :: rest) then _ else _) = _
    simp [closing, List.isPrefixOf, hne]
  | cons c cs ih =>
    obtain ⟨hc, hcs⟩ := Bool.or_eq_false_iff.mp h
    have hc' : closing.isPrefixOf (c :: (cs ++ d :: rest)) = false := by
      cases cs with
      | nil => exact isPrefixOf_closing_end hd rest
      | cons e cs => exact (isPrefixOf_closing_cons c e _ cs).trans hc
    show (if closing.isPrefixOf (c :: (cs ++ d :: rest)) then _ else _) = _
    rw [hc']
    exact ih hcs

/-- a closing within a text ends the comment there -/
theorem pastClosing_early {cs : List Char} (h : occursIn closing cs = true) (rest : List Char) :
    ∃ more, pastClosing (cs ++ rest) = some (more ++ rest) := by
  induction cs with
  | nil => simp [occursIn, closing] at h
  | cons c cs ih =>
    cases cs with
    | nil => simp [occursIn, closing, List.isPrefixOf] at h
    | cons d cs =>
      show ∃ more, (if closing.isPrefixOf (c :: d :: (cs ++ rest)) then some (cs ++ rest)
        else pastClosing (d :: cs ++ rest)) = some (more ++ rest)
      rw [isPrefixOf_closing_cons c d (cs ++ rest) cs]
      cases hc : closing.isPrefixOf (c :: d :: cs) with
      | true => exact ⟨cs, rfl⟩
      | false =>
        have hcs : occursIn closing (d :: cs) = true := by
          have h' : (closing.isPrefixOf (c :: d :: cs) || occursIn closing (d :: cs)) = true := h
          rwa [hc, Bool.false_or] at h'
        exact ih hcs

theorem isHarmless_iff (text : String) :
    isHarmless text = true ↔ occursIn closing text.toList = false := by
  rw [isHarmless, Bool.not_eq_true']

/-- a comment is closed by its own end exactly if the text between its first and its last line
holds no closing -/
theorem closed_between {first last : String} {lead trail : List Char}
    (hfirst : first.toList = '/' :: '*' :: (lead ++ [' ']))
    (hlast : last.toList = '\n' :: (trail ++ [' ', '*', '/']))
    (hlead : occursIn closing lead = false) (htrail : occursIn closing trail = false)
    (text : String) : Closed (first ++ text ++ last) ↔ isHarmless text = true := by
  have hread : ∀ rest, pastComment ((first ++ text ++ last).toList ++ rest) =
      pastClosing (text.toList ++ '\n' :: (trail ++ ' ' :: '*' :: '/' :: rest)) := by
    intro rest
    rw [String.toList_append, String.toList_append, hfirst, hlast]
    simp only [List.cons_append, List.append_assoc, List.nil_append]
    exact pastClosing_skip hlead (by decide) (by decide) _
  rw [isHarmless_iff]
  constructor
  · intro hc
    by_contra hi
    rw [Bool.not_eq_false] at hi
    obtain ⟨more, hmore⟩ := pastClosing_early hi ('\n' :: (trail ++ [' ', '*', '/']))
    have hnil := hc []
    rw [hread, hmore, Option.some.injEq] at hnil
    simp at hnil
  · intro hi rest
    rw [hread, pastClosing_skip hi (by decide) (by decide),
      pastClosing_skip htrail (by decide) (by decide)]
    rfl

theorem closed_docComment_iff (text : String) :
    Closed (docComment text) ↔ isHarmless text = true := by
  have hlead : occursIn closing ['*', '\n', ' ', '*'] = false := by decide
  have htrail : occursIn closing [] = false := by decide
  exact closed_between rfl rfl hlead htrail text

theorem closed_header_iff (indexName : String) :
    Closed (header indexName) ↔ isHarmless indexName = true := by
  have hsplit : header indexName = "/**\n * Generated TypeScript types for Algolia index: " ++
      indexName ++ "\n * This file is auto-generated. Do not edit manually.\n */" := rfl
  have hfirst : "/**\n * Generated TypeScript types for Algolia index: ".toList = '/' :: '*' ::
      ("*\n * Generated TypeScript types for Algolia index:".toList ++ [' ']) := by
    decide +kernel
  have hlast : "\n * This file is auto-generated. Do not edit manually.\n */".toList = '\n' ::
      (" * This file is auto-generated. Do not edit manually.\n".toList ++ [' ', '*', '/']) := by
    decide +kernel
  rw [hsplit]
  exact closed_between hfirst hlast (by decide +kernel) (by decide +kernel) indexName

/-! ## paths -/

theorem occursIn_joinTexts (path : Path) :
    occursIn closing (Shape.dotted path).toList =
      path.any fun key => occursIn closing key.toList := by
  match path with
  | [] => rfl
  | [key] => exact (Bool.or_false _).symm
  | key :: next :: path =>
    show occursIn closing (key ++ "." ++ Shape.dotted (next :: path)).toList = _
    rw [String.append_assoc, String.toList_append, String.toList_append]
    show occursIn closing (key.toList ++ '.' :: (Shape.dotted (next :: path)).toList) = _
    rw [occursIn_append _ (by decide) (by decide), occursIn_joinTexts (next :: path)]
    rfl

/-- the text on a value set is as harmless as the keys that lead to it: the points between them
keep them apart -/
theorem isHarmless_observed (v : ValueSet) :
    isHarmless ("Observed values of " ++ v.dotted) = v.path.all isHarmless := by
  have hlead : occursIn closing ("Observed values of " ++ v.dotted).toList =
      occursIn closing v.dotted.toList := by
    rw [String.toList_append]
    rfl
  rw [isHarmless, hlead, ValueSet.dotted, occursIn_joinTexts, List.not_any_eq_all_not]
  rfl

/-! ## words of a name -/

section
open Text

/-- a character of ASCII other than the slash -/
def isTame (c : Char) : Bool := decide (c.toNat < 128) && c != '/'

theorem mapCase_of_lt {run : CaseRun} {runs : List CaseRun} {c : Char}
    (h : ∀ r ∈ runs, c.toNat < r.first) :
    mapCase (run :: runs) c =
      if run.covers c.toNat then Char.ofNat (c.toNat + run.shift).toNat else c := by
  have hnone : runs.find? (·.covers c.toNat) = none := by
    rw [List.find?_eq_none]
    intro r hr
    have hlt := h r hr
    have hle : ¬ r.first ≤ c.toNat := by omega
    simp [CaseRun.covers, hle]
  rw [mapCase, List.find?_cons]
  cases hc : run.covers c.toNat with
  | true => rfl
  | false => simp [hnone]

theorem toNat_lt_of_isTame {c : Char} (h : isTame c = true) : c.toNat < 128 := by
  rw [isTame, Bool.and_eq_true, decide_eq_true_eq] at h
  exact h.1

/-- the letters of ASCII are mapped by the first run of a table to letters of ASCII -/
theorem isTame_mapCase {run : CaseRun} {runs : List CaseRun}
    (hruns : ∀ r ∈ runs, 128 ≤ r.first)
    (hrun : ∀ n < 128, run.covers n = true → isTame (Char.ofNat (n + run.shift).toNat) = true)
    {c : Char} (h : isTame c = true) : isTame (mapCase (run :: runs) c) = true := by
  have hlt := toNat_lt_of_isTame h
  rw [mapCase_of_lt fun r hr => Nat.lt_of_lt_of_le hlt (hruns r hr)]
  split
  · rename_i hc
    exact hrun _ hlt hc
  · exact h

theorem isTame_lower {c : Char} (h : isTame c = true) (before after : List Char) :
    ∀ d ∈ lowerAt before c after, isTame d = true := by
  have hlt := toNat_lt_of_isTame h
  rw [lowerAt, if_neg (by omega), if_neg (by omega), List.forall_mem_singleton]
  exact isTame_mapCase (by decide +kernel) (by decide) h

theorem isTame_lowerFrom {before cs : List Char} (h : ∀ c ∈ cs, isTame c = true) :
    ∀ c ∈ lowerFrom before cs, isTame c = true := by
  induction cs generalizing before with
  | nil => simp [lowerFrom]
  | cons c cs ih =>
    obtain ⟨hc, hcs⟩ := List.forall_mem_cons.mp h
    rw [lowerFrom_cons]
    exact List.forall_mem_append.mpr ⟨isTame_lower hc before cs, ih hcs⟩

theorem isTame_upperFirst {cs : List Char} (h : ∀ c ∈ cs, isTame c = true) :
    ∀ c ∈ upperFirstChars cs, isTame c = true := by
  cases cs with
  | nil => simp [upperFirstChars]
  | cons c cs =>
    obtain ⟨hc, hcs⟩ := List.forall_mem_cons.mp h
    refine List.forall_mem_append.mpr ⟨?_, hcs⟩
    have hlt := toNat_lt_of_isTame hc
    have hwide : upperWide.find? (·.1 == c.toNat) = none := by
      rw [List.find?_eq_none]
      intro w hw
      have : ∀ w ∈ upperWide, 128 ≤ w.1 := by decide +kernel
      have := this w hw
      simp only [beq_iff_eq]
      omega
    rw [upperChar, hwide, List.forall_mem_singleton]
    exact isTame_mapCase (by decide +kernel) (by decide) hc

theorem isTame_of_isAffixChar {c : Char} (h : isAffixChar c = true) : isTame c = true := by
  simp only [isAffixChar, Bool.or_eq_true, beq_iff_eq] at h
  rcases h with (h | rfl) | rfl
  · exact of_alnum (P := fun c => isTame c = true) (by decide) h
  · rfl
  · rfl

theorem mem_of_mem_dropLead {affix cs : List Char} {c : Char} (h : c ∈ dropLead affix cs) :
    c ∈ cs := by
  rw [dropLead] at h
  split at h
  · exact List.mem_of_mem_drop h
  · exact h

theorem mem_of_mem_trimWith {p : Char → Bool} {cs : List Char} {c : Char}
    (h : c ∈ trimWith p cs) : c ∈ cs := by
  rw [trimWith, dropEndWhile, List.mem_reverse] at h
  have h' := List.mem_reverse.mp ((List.dropWhile_sublist p).mem h)
  exact (List.dropWhile_sublist p).mem h'

theorem isTame_bareWords {a : Affixes} {name : String}
    (h : ∀ c ∈ name.toList, isAffixChar c = true) : ∀ c ∈ bareWords a name, isTame c = true := by
  intro c hc
  rw [bareWords, spaced, List.mem_flatMap] at hc
  obtain ⟨d, hd, hcd⟩ := hc
  rw [dropTrail, List.mem_reverse] at hd
  have hname : d ∈ name.toList :=
    mem_of_mem_dropLead (List.mem_reverse.mp (mem_of_mem_dropLead hd))
  have htame := isTame_of_isAffixChar (h d hname)
  split at hcd
  · rcases List.mem_cons.mp hcd with rfl | hcd
    · rfl
    · exact List.mem_singleton.mp hcd ▸ htame
  · exact List.mem_singleton.mp hcd ▸ htame

/-- the summary of a name has no slash -/
theorem isHarmless_summary {a : Affixes} {name : String}
    (h : ∀ c ∈ name.toList, isAffixChar c = true) : isHarmless (summary a name) = true := by
  have hwords : ∀ c ∈ upperFirstChars (lowerFrom []
      (trimWith isBlank (bareWords a name))), isTame c = true :=
    isTame_upperFirst (isTame_lowerFrom fun c hc => isTame_bareWords h c (mem_of_mem_trimWith hc))
  have hslash : '/' ∉ (summary a name).toList := by
    rw [summary, upperFirst, lower, trim]
    simp only [String.toList_append, String.toList_ofList, List.mem_append, not_or]
    exact ⟨fun hm => absurd (hwords _ hm) (by decide), by decide⟩
  rw [isHarmless, occursIn_of_not_mem hslash]
  rfl

end

/-! ## the document -/

/-- what follows the comment on a record type -/
def bodyText (r : Registry) (name : String) : String :=
  "\n" ++ ((r.get? name).map TypeDecl.body).getD ""

/-- what follows the comment on a value set -/
def aliasText (a : Affixes) (v : ValueSet) : String :=
  "\nexport type " ++ valueSetName a v.path ++ " = " ++
    TypeExpr.joinTexts " | " (v.values.map Json.text) ++ ";"

theorem typesText_eq (r : Registry) (indexName : String) (a : Affixes) :
    typesText r indexName a = header indexName ++ "\n" ++
      String.join ((genericBlock r).map fun u => "\n" ++ u ++ "\n") ++
      String.join ((emissionOrder r.bodies).map fun n =>
        "\n" ++ docComment (summary a n) ++ bodyText r n ++ "\n") := by
  have hblock : ∀ n ∈ emissionOrder r.bodies, "\n" ++ typeBlock r a n ++ "\n" =
      "\n" ++ docComment (summary a n) ++ bodyText r n ++ "\n" := by
    intro n hn
    obtain ⟨d, _, rfl, hd⟩ := Registry.exists_get? (mem_emissionOrder_bodies.mp hn)
    rw [typeBlock, bodyText, hd]
    show "\n" ++ (docComment (summary a d.name) ++ "\n" ++ d.body) ++ "\n" =
      "\n" ++ docComment (summary a d.name) ++ ("\n" ++ d.body) ++ "\n"
    simp only [String.append_assoc]
  rw [typesText]
  show TypeExpr.joinTexts "\n\n" (header indexName :: [] ++
    (genericBlock r ++ (emissionOrder r.bodies).map (typeBlock r a))) ++ "\n" = _
  rw [TypeExpr.joinTexts_append]
  show header indexName ++ _ ++ "\n" = _
  rw [join_line_ends, List.map_append, String.join_append, List.map_map, ← String.append_assoc,
    ← List.map_congr_left hblock]
  rfl

theorem valueSetsText_eq (a : Affixes) (sets : List ValueSet) :
    valueSetsText a sets = String.join (sets.map fun v =>
      "\n" ++ docComment ("Observed values of " ++ v.dotted) ++ aliasText a v ++ "\n") := by
  have hassoc : ∀ c k n e vs s : String, "\n" ++ (c ++ k ++ n ++ e ++ vs ++ s) ++ "\n" =
      "\n" ++ c ++ (k ++ n ++ e ++ vs ++ s) ++ "\n" := by
    intro c k n e vs s
    simp only [String.append_assoc]
  exact congrArg String.join (List.map_congr_left fun v _ => hassoc _ _ _ _ _ _)

/-- The text for some samples has a comment at its head and one before every record type and every
value set.  A comment on a record type is closed by its own end.  The one at the head is exactly if
the index name holds no `*/`, and one on a value set exactly if no key on the way to it does. -/
theorem comments_close (samples : List Json) (t : Target) (ht : t.affixes.isPlain = true) :
    let r := registryFor samples t.affixes
    let sets := if t.enums then (mergeSamples samples).valueSets else []
    (generate samples t).1 = header t.indexName ++ "\n" ++
        String.join ((genericBlock r).map fun u => "\n" ++ u ++ "\n") ++
        String.join ((emissionOrder r.bodies).map fun n =>
          "\n" ++ docComment (summary t.affixes n) ++ bodyText r n ++ "\n") ++
        String.join (sets.map fun v =>
          "\n" ++ docComment ("Observed values of " ++ v.dotted) ++ aliasText t.affixes v ++
            "\n") ∧
      (∀ n ∈ emissionOrder r.bodies, Closed (docComment (summary t.affixes n))) ∧
      (Closed (header t.indexName) ↔ isHarmless t.indexName = true) ∧
      ∀ v ∈ sets, Closed (docComment ("Observed values of " ++ v.dotted)) ↔
        ∀ key ∈ v.path, isHarmless key = true := by
  intro r sets
  refine ⟨?_, ?_, closed_header_iff t.indexName, ?_⟩
  · rw [text_generate, typesText_eq, valueSetsText_eq]
  · intro n hn
    obtain ⟨q, fs, _, rfl⟩ := mem_order_registryFor.mp hn
    exact (closed_docComment_iff _).mpr (isHarmless_summary (isTypeName_recordName ht q).1)
  · intro v _
    rw [closed_docComment_iff, isHarmless_observed, List.all_eq_true]

/-- the point between two keys keeps a star and a slash apart -/
theorem comments_close_joint :
    let samples : List Json :=
      [.obj [("a*", .obj [("/b", .arr [.str "y"])])], .obj [("a*", .obj [])]]
    (⟨"Algolia", "$"⟩ : Affixes).isPlain = true ∧
      (mergeSamples samples).valueSets.map ValueSet.dotted = ["a*./b"] ∧
      ∀ v ∈ (mergeSamples samples).valueSets,
        Closed (docComment ("Observed values of " ++ v.dotted)) := by
  intro samples
  have hkeys : ∀ p ∈ (mergeSamples samples).valueSets.map ValueSet.path,
      ∀ key ∈ p, isHarmless key = true := by decide
  have hclosed := (comments_close samples ⟨"products", ⟨"Algolia", "$"⟩, true⟩ rfl).2.2.2
  exact ⟨rfl, rfl, fun v hv => (hclosed v hv).mpr (hkeys _ (List.mem_map_of_mem hv))⟩

/-- a key of a record closes the comment on the value set below it -/
theorem key_closes_comment :
    let samples : List Json := [.obj [("*/x", .arr [.str "y"])], .obj []]
    let comment := docComment "Observed values of */x"
    (∃ text, (generate samples ⟨"products", {}, true⟩).1 = text ++ "\n" ++ comment ++
        "\nexport type XValues = \x22y\x22;\n") ∧
      pastComment comment.toList = some "x\n */".toList ∧ ¬ Closed comment := by
  intro samples comment
  refine ⟨⟨typesText (registryFor samples {}) "products" {}, ?_⟩, by decide, fun h => ?_⟩
  · rw [text_generate, String.append_assoc, String.append_assoc]
    rfl
  · exact absurd ((closed_docComment_iff _).mp h) (by decide)

end Declaration

end SampleTypes
