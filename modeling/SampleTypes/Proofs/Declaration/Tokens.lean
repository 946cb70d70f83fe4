import Mathlib.Data.List.TakeWhile
import SampleTypes.Proofs.Declaration.Follows
import SampleTypes.Proofs.Shape.Initial

/-!
# Generated names as tokens

With affixes of ASCII letters, digits, underscores and dollar signs a generated name is an
identifier unless it begins with a digit, which it may do if nothing stands before the key that it
is made of.  The scan of a declaration passes over digits at the start of a token, so it reads such
a name as what follows them.

* `isAsciiIdentifier n`    a letter, `_` or `$` of ASCII, and then also digits;
* `Name.token? n`          what the scan reads of a generated name;
* `identifiers_generated`  it reads this and nothing else;
* `tokens_walk`            which names are identifiers, and what is read of a declaration.
-/

namespace SampleTypes

open Declaration

/-- an ASCII letter, the underscore or the dollar sign, and after it also ASCII digits -/
def isAsciiIdentifier (n : String) : Bool :=
  match n.toList with
  | [] => false
  | c :: cs => isIdentStart c && cs.all isAffixChar

/-- what the scan reads of a generated name: the name without the digits at its start -/
def Name.token? (n : String) : Option String :=
  match n.toList.dropWhile Text.isAsciiDigit with
  | [] => none
  | c :: cs => some (String.ofList (c :: cs))

/-! ## characters -/

theorem isIdentStart_eq {c : Char} (h : isAffixChar c = true) :
    isIdentStart c = !Text.isAsciiDigit c := by
  simp only [isAffixChar, Bool.or_eq_true, beq_iff_eq] at h
  rcases h with (h | rfl) | rfl
  · refine Name.of_alnum (P := fun c => isIdentStart c = !Text.isAsciiDigit c) ?_ h
    decide
  · rfl
  · rfl

theorem isAffixChar_of_isIdentStart {c : Char} (h : isIdentStart c = true) :
    isAffixChar c = true := by
  simp only [isIdentStart, Bool.or_eq_true] at h
  rcases h with (h | h) | h
  · exact isAffixChar_of_alnum (Text.isAsciiAlnum_of_letter h)
  · simp [isAffixChar, h]
  · simp [isAffixChar, h]

/-! ## names -/

section
variable {n : String}

theorem chars_of_isAsciiIdentifier (h : isAsciiIdentifier n = true) :
    ∀ c ∈ n.toList, isAffixChar c = true := by
  rw [isAsciiIdentifier] at h
  cases e : n.toList with
  | nil => simp
  | cons c cs =>
    rw [e] at h
    obtain ⟨hc, hcs⟩ := Bool.and_eq_true_iff.mp h
    exact List.forall_mem_cons.mpr ⟨isAffixChar_of_isIdentStart hc, List.all_eq_true.mp hcs⟩

/-- a name is an identifier unless it begins with a digit -/
theorem isAsciiIdentifier_iff (hne : n ≠ "") (hn : ∀ c ∈ n.toList, isAffixChar c = true) :
    isAsciiIdentifier n = true ↔ startsWithDigit n = false := by
  obtain ⟨c, cs, e⟩ := Name.exists_toList_cons hne
  rw [e] at hn
  obtain ⟨hc, hcs⟩ := List.forall_mem_cons.mp hn
  have hrest : cs.all isAffixChar = true := List.all_eq_true.mpr hcs
  rw [isAsciiIdentifier, startsWithDigit, e]
  show (isIdentStart c && cs.all isAffixChar) = true ↔ Text.isAsciiDigit c = false
  rw [hrest, Bool.and_true, isIdentStart_eq hc, Bool.not_eq_true']

theorem identifiersFrom_digits {cs : List Char} (h : ∀ c ∈ cs, isAffixChar c = true) :
    identifiersFrom [] cs = match cs.dropWhile Text.isAsciiDigit with
      | [] => []
      | c :: cs => [c :: cs] := by
  induction cs with
  | nil => exact identifiersFrom_nil
  | cons c cs ih =>
    obtain ⟨hc, hcs⟩ := List.forall_mem_cons.mp h
    have hstart := isIdentStart_eq hc
    cases hd : Text.isAsciiDigit c with
    | true =>
      rw [hd] at hstart
      rw [identifiersFrom, hstart, List.dropWhile_cons_of_pos hd]
      exact ih hcs
    | false =>
      rw [hd] at hstart
      have hparts : ∀ d ∈ cs, isIdentPart d = true := fun d hd =>
        isIdentPart_of_isAffixChar (hcs d hd)
      rw [identifiersFrom, hstart, List.dropWhile_cons_of_neg (by simp [hd])]
      exact identifiersFrom_parts hparts c []

/-- a generated name is read as what follows the digits at its start -/
theorem identifiers_generated (hn : ∀ c ∈ n.toList, isAffixChar c = true) :
    identifiers n = (Name.token? n).toList := by
  rw [identifiers, identifiersFrom_digits hn, Name.token?]
  cases n.toList.dropWhile Text.isAsciiDigit <;> rfl

theorem toList_of_token? {m : String} (h : Name.token? n = some m) :
    m.toList = n.toList.dropWhile Text.isAsciiDigit := by
  rw [Name.token?] at h
  split at h
  · simp at h
  · rename_i c cs e
    rw [← Option.some.inj h, String.toList_ofList, e]

/-- so it is read as itself exactly if it is an identifier -/
theorem token?_eq_some_iff (hne : n ≠ "") (hn : ∀ c ∈ n.toList, isAffixChar c = true) :
    Name.token? n = some n ↔ isAsciiIdentifier n = true := by
  rw [isAsciiIdentifier_iff hne hn, startsWithDigit]
  obtain ⟨c, cs, e⟩ := Name.exists_toList_cons hne
  rw [e]
  show _ ↔ Text.isAsciiDigit c = false
  constructor
  · intro h
    have hdrop := toList_of_token? h
    rw [e] at hdrop
    cases hd : Text.isAsciiDigit c with
    | false => rfl
    | true =>
      rw [List.dropWhile_cons_of_pos hd] at hdrop
      have hlen := (List.dropWhile_suffix (l := cs) Text.isAsciiDigit).length_le
      rw [← hdrop, List.length_cons] at hlen
      omega
  · intro hd
    have hback : String.ofList (c :: cs) = n := e ▸ String.ofList_toList
    rw [Name.token?, e, List.dropWhile_cons_of_neg (by simp [hd])]
    exact congrArg some hback

end

/-! ## the names of an inference -/

section
variable {a : Affixes}

/-- nothing or an identifier in front of all names, and after them letters, digits, underscores and
dollar signs -/
structure Affixes.Sane (a : Affixes) : Prop where
  lead : a.lead = "" ∨ isAsciiIdentifier a.lead = true
  trail : a.trail.toList.all isAffixChar = true

theorem Affixes.Sane.isPlain (h : a.Sane) : a.isPlain = true := by
  rw [Affixes.isPlain, Bool.and_eq_true]
  refine ⟨?_, h.trail⟩
  rcases h.lead with e | hid
  · simp [e]
  · exact List.all_eq_true.mpr (chars_of_isAsciiIdentifier hid)

/-- a name between affixes is an identifier, unless nothing is in front of it and it begins with a
digit -/
theorem isAsciiIdentifier_around (h : a.Sane) {w : String} (hw : Name.IsWord w) :
    isAsciiIdentifier (a.around w) = true ↔ a.lead ≠ "" ∨ startsWithDigit w = false := by
  have hname := Affixes.isTypeName_around h.isPlain hw
  rw [isAsciiIdentifier_iff hname.ne_empty hname.1, Affixes.around, String.append_assoc]
  by_cases hlead : a.lead = ""
  · rw [hlead, String.empty_append, startsWithDigit_append hw.ne_empty]
    simp
  · have hid : isAsciiIdentifier a.lead = true := h.lead.resolve_left hlead
    have hdigit := (isAsciiIdentifier_iff hlead (chars_of_isAsciiIdentifier hid)).mp hid
    rw [startsWithDigit_append hlead, hdigit]
    simp [hlead]

end

/-! ## what is read -/

theorem isIdentifier_of_isAsciiIdentifier {n : String} (h : isAsciiIdentifier n = true) :
    isIdentifier n = true := by
  have hchars := chars_of_isAsciiIdentifier h
  rw [isAsciiIdentifier] at h
  rw [isIdentifier]
  cases e : n.toList with
  | nil => simp [e] at h
  | cons c cs =>
    rw [e] at h hchars
    obtain ⟨hc, _⟩ := Bool.and_eq_true_iff.mp h
    have hdrop : cs.dropWhile isIdentPart = [] := List.dropWhile_eq_nil_iff.mpr fun d hd =>
      isIdentPart_of_isAffixChar (hchars d (List.mem_cons_of_mem _ hd))
    rw [isIdentifierChars, hdrop, hc]
    rfl

theorem head_of_mem_identifiersFrom {w cs t : List Char}
    (hw : w ≠ [] → w.getLast?.any isIdentStart = true) (h : t ∈ identifiersFrom w cs) :
    t.head?.any isIdentStart = true := by
  induction cs generalizing w with
  | nil =>
    cases w with
    | nil => simp [identifiersFrom_nil] at h
    | cons d w =>
      rw [identifiersFrom_end, List.mem_singleton] at h
      rw [h, List.head?_reverse]
      exact hw (List.cons_ne_nil _ _)
  | cons c cs ih =>
    cases w with
    | nil =>
      rw [identifiersFrom] at h
      split at h
      · rename_i hc
        exact ih (w := [c]) (fun _ => by simpa using hc) h
      · exact ih (w := []) (fun hne => absurd rfl hne) h
    | cons d w =>
      have hlast := hw (List.cons_ne_nil _ _)
      rw [identifiersFrom] at h
      split at h
      · exact ih (w := c :: d :: w) (fun _ => by rwa [List.getLast?_cons_cons]) h
      · rcases List.mem_cons.mp h with rfl | h
        · rwa [List.head?_reverse]
        · exact ih (w := []) (fun hne => absurd rfl hne) h

/-- no token begins with a digit -/
theorem startsWithDigit_of_mem_identifiers {n text : String} (h : n ∈ identifiers text) :
    startsWithDigit n = false := by
  obtain ⟨t, ht, rfl⟩ := List.mem_map.mp h
  have hhead := head_of_mem_identifiersFrom (fun hne => absurd rfl hne) ht
  rw [startsWithDigit, String.toList_ofList]
  cases e : t.head? with
  | none => rfl
  | some c =>
    rw [e] at hhead
    have hc : isIdentStart c = true := hhead
    have hd := isIdentStart_eq (isAffixChar_of_isIdentStart hc)
    rw [hc] at hd
    simpa using hd.symm

/-- so no name that begins with a digit is found in a text -/
theorem startsWithDigit_of_mem_dependencies {bodies : List (String × String)} {m n : String}
    (h : n ∈ (Graph.ofBodies bodies).dependencies m) : startsWithDigit n = false := by
  obtain ⟨ds, hl, hd⟩ := Graph.exists_of_mem_dependencies h
  obtain ⟨p, _, e⟩ := List.mem_map.mp (Fields.mem_of_lookup hl)
  obtain ⟨_, rfl⟩ := Prod.mk.inj e
  exact startsWithDigit_of_mem_identifiers (Graph.mem_references.mp hd).1

/-- the tokens of a declaration, from what is read of each name in it -/
def TypeDecl.tokens (read : String → List String) (d : TypeDecl) : List String :=
  ["export", "interface"] ++ read d.name ++ (Fields.sorted d.fields).flatMap fun f =>
    identifiers (keyText f.1) ++ (f.2.type.names.flatMap read ++ nullWords f.2)

namespace Infer

theorem Layered.identifiers_body {s : Settings} {r : Registry} (h : Layered s r) {d : TypeDecl}
    (hd : d ∈ r.declarations) : identifiers d.body = d.tokens identifiers := by
  rw [h.body_eq hd, identifiers_interfaceText, TypeDecl.tokens]
  simp only [identifiers_fieldType]

/-- the names in a declaration consist of the characters of affixes -/
theorem Layered.chars_mentioned {s : Settings} {r : Registry} (h : Layered s r)
    (ha : s.affixes.isPlain = true) {d : TypeDecl} (hd : d ∈ r.declarations) {n : String}
    (hn : d.Mentions n) : ∀ c ∈ n.toList, isAffixChar c = true := by
  obtain ⟨before, after, e⟩ := List.append_of_mem hd
  rcases h.mentions e hn with hb | (rfl | ⟨p, rfl⟩) | hb
  · exact (h.isTypeName ha (Registry.names_before_subset e hb)).1
  · exact List.all_eq_true.mp rfl
  · cases p <;> exact List.all_eq_true.mp rfl
  · rw [h.idValueName_eq hb]
    exact (isTypeName_idValueName ha).1

theorem Layered.tokens_body {s : Settings} {r : Registry} (h : Layered s r)
    (ha : s.affixes.isPlain = true) {d : TypeDecl} (hd : d ∈ r.declarations) :
    identifiers d.body = d.tokens fun n => (Name.token? n).toList := by
  have hname := identifiers_generated (h.isTypeName ha (List.mem_map_of_mem hd)).1
  have hfield : ∀ f ∈ Fields.sorted d.fields, ∀ n ∈ f.2.type.names,
      identifiers n = (Name.token? n).toList := fun f hf n hn =>
    identifiers_generated (h.chars_mentioned ha hd ⟨f, (Fields.perm_sorted _).mem_iff.mp hf, hn⟩)
  rw [h.identifiers_body hd, TypeDecl.tokens, TypeDecl.tokens, hname]
  refine congrArg _ (List.flatMap_congr fun f hf => ?_)
  rw [List.flatMap_congr (hfield f hf)]

/-- The name of the generic type is an identifier.  The name of a record and that of a value set
are identifiers unless nothing is put in front of them and they begin with a digit.  In the text of
a declaration a name is read as what follows the digits at its start, so a mention of another
declared name is found exactly if this name is an identifier. -/
theorem tokens_walk {s : Settings} (ha : s.affixes.Sane) (calls : List (Path × Json)) :
    let a := s.affixes
    let r := (walk s {} calls).2.registry
    isAsciiIdentifier (Name.idValueName a) = true ∧
      (∀ path, isAsciiIdentifier (Name.recordName a path) = true ↔
        a.lead ≠ "" ∨ Name.pathDigitFirst (Name.keysOf path) = false) ∧
      (∀ path, isAsciiIdentifier (valueSetName a path) = true ↔
        a.lead ≠ "" ∨ Name.digitFirst (String.join path) = false) ∧
      (∀ n ∈ r.names, ∃ path, n = Name.recordName a path) ∧
      (∀ g, r.idValueName = some g → g = Name.idValueName a) ∧
      (∀ n, n ∈ r.names ∨ r.idValueName = some n →
        (Name.token? n = some n ↔ isAsciiIdentifier n = true)) ∧
      (∀ d ∈ r.declarations, identifiers d.body = d.tokens fun n => (Name.token? n).toList) ∧
      ∀ m n, r.Uses m n → m ≠ n →
        (n ∈ (Graph.ofBodies r.bodies).dependencies m ↔ isAsciiIdentifier n = true) := by
  intro a r
  have hplain := ha.isPlain
  have h : Layered s r := layered_walk hplain (.empty s) calls
  refine ⟨?_, ?_, ?_, ?_, fun g hg => h.idValueName_eq hg, ?_, ?_, ?_⟩
  · have hlead : Affixes.Sane ⟨a.lead, ""⟩ := ⟨ha.lead, rfl⟩
    rw [idValueName_eq_around, isAsciiIdentifier_around hlead (Name.isWord_of_test rfl)]
    exact .inr rfl
  · intro path
    rw [← Name.startsWithDigit_plain]
    exact isAsciiIdentifier_around ha (Name.isWord_plain _)
  · intro path
    rw [← Name.startsWithDigit_valuesWord]
    exact isAsciiIdentifier_around ha (Name.isWord_valuesWord path)
  · intro n hn
    obtain ⟨d, hd, rfl⟩ := List.mem_map.mp hn
    obtain ⟨path, fs, rfl⟩ := h.declared d hd
    exact ⟨path, rfl⟩
  · rintro n (hn | hn)
    · have hname := h.isTypeName hplain hn
      exact token?_eq_some_iff hname.ne_empty hname.1
    · have hname := isTypeName_idValueName hplain
      rw [h.idValueName_eq hn]
      exact token?_eq_some_iff hname.ne_empty hname.1
  · exact fun d hd => h.tokens_body hplain hd
  · intro m n hu hne
    have hname := h.isTypeName hplain hu.1
    constructor
    · intro hdep
      rw [isAsciiIdentifier_iff hname.ne_empty hname.1]
      exact startsWithDigit_of_mem_dependencies hdep
    · intro hid
      exact reads_mention h hplain hu hne (isIdentifier_of_isAsciiIdentifier hid)

/-- of two records below the root the one is found and the other is not -/
theorem tokens_walk_digit :
    let s : Settings := { affixes := ⟨"", "_"⟩ }
    let calls : List (Path × Json) :=
      [([], .obj [("2x", .obj [("y", .int 1)]), ("a", .obj [("z", .null)])])]
    let r := (walk s {} calls).2.registry
    let found := (Graph.ofBodies r.bodies).dependencies "Hit_"
    s.affixes.Sane ∧ r.Uses "Hit_" "2x_" ∧ r.Uses "Hit_" "A_" ∧ "2x_" ∉ found ∧ "A_" ∈ found := by
  intro s calls r found
  have ha : s.affixes.Sane := ⟨.inl rfl, by decide⟩
  have hdigit : r.Uses "Hit_" "2x_" := by decide
  have hletter : r.Uses "Hit_" "A_" := by decide
  obtain ⟨_, _, _, _, _, _, _, hfound⟩ := tokens_walk ha calls
  have hmissed := (hfound _ _ hdigit (by decide)).not.mpr (by decide)
  exact ⟨ha, hdigit, hletter, hmissed, (hfound _ _ hletter (by decide)).mpr (by decide)⟩

/-- a key that begins with a digit makes a name that is no identifier, and is read as another one -/
theorem name_begins_with_digit :
    let v : Json := .obj [("2x", .obj [("y", .int 1)])]
    let r := (infer {} [] {} v).2.registry
    Affixes.Sane {} ∧ r.names = ["2x", "Hit"] ∧ isAsciiIdentifier "2x" = false ∧
      isAsciiIdentifier (valueSetName {} ["2x"]) = false ∧ identifiers "2x" = ["x"] ∧
      r.Uses "Hit" "2x" ∧ "2x" ∉ (Graph.ofBodies r.bodies).dependencies "Hit" := by
  intro v r
  have hmissed : "2x" ∉ (Graph.ofBodies r.bodies).dependencies "Hit" := fun h =>
    Bool.noConfusion (startsWithDigit_of_mem_dependencies h)
  have ha : Affixes.Sane {} := ⟨.inl rfl, by decide⟩
  exact ⟨ha, by decide, by decide, by decide, by decide, by decide, hmissed⟩

end Infer

end SampleTypes
