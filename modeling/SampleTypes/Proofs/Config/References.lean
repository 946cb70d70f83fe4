import SampleTypes.Config.Expand

/-!
# One pass over the references

A text is read from left to right as characters and references, each reference as long as it can
be, and in only one way.  What the data expands to is then its own shape with the values in the
places of the references; it needs the variables that its texts refer to, in their order, and
fails with the first of them that is not set.

* `Refers`           what refers to a name after a dollar sign;
* `Scanned`          the reading of characters as segments; `scanned_iff`: there is only one;
* `Data.texts`       the texts among the values, in the order of the data, whatever the depth;
* `Data.mapTexts`    the data with each of them changed, and nothing else;
* `Environment.needing`   a result that needs some variables;
* `Data.expand_eq`   the expansion as a result that needs the variables referred to;
* `expand_once`      the main statement.
-/

namespace SampleTypes

/-! ## the segments of a text -/

/-- a name is a run of word characters -/
structure IsName (name : List Char) : Prop where
  ne_nil : name ≠ []
  word : ∀ c ∈ name, Text.isWord c = true

/-- the characters go on with no word character -/
def EndsWord (rest : List Char) : Prop := ∀ c ∈ rest.head?, Text.isWord c = false

/-- `Refers name written rest`: after a dollar sign and before the characters `rest`, what is
written refers to the name.  It stands between braces, or alone and as long as it can be. -/
inductive Refers (name : List Char) : (written rest : List Char) → Prop where
  | braced (hname : IsName name) (rest : List Char) : Refers name ('\x7b' :: name ++ ['\x7d']) rest
  | bare {rest : List Char} (hname : IsName name) (hrest : EndsWord rest) : Refers name name rest

/-- characters read as segments, from left to right -/
inductive Scanned : List Char → List Segment → Prop where
  | nil : Scanned [] []
  | reference {name written rest : List Char} {ss : List Segment} (h : Refers name written rest)
      (hrest : Scanned rest ss) :
      Scanned ('$' :: written ++ rest) (.reference (String.ofList name) :: ss)
  | char {c : Char} {cs : List Char} {ss : List Segment}
      (h : c = '$' → ∀ name written rest, cs = written ++ rest → ¬ Refers name written rest)
      (hrest : Scanned cs ss) : Scanned (c :: cs) (.char c :: ss)

section
variable {name written rest cs : List Char}

theorem takeWhile_name (hname : IsName name) (hrest : EndsWord rest) :
    (name ++ rest).takeWhile Text.isWord = name := by
  rw [List.takeWhile_append_of_pos hname.word]
  cases rest with
  | nil => simp
  | cons c rest => rw [List.takeWhile_cons_of_neg (by simp [hrest c rfl]), List.append_nil]

theorem dropWhile_name (hname : IsName name) (hrest : EndsWord rest) :
    (name ++ rest).dropWhile Text.isWord = rest := by
  rw [List.dropWhile_append_of_pos hname.word]
  cases rest with
  | nil => rfl
  | cons c rest => rw [List.dropWhile_cons_of_neg (by simp [hrest c rfl])]

theorem isName_takeWhile (h : cs.takeWhile Text.isWord ≠ []) :
    IsName (cs.takeWhile Text.isWord) :=
  ⟨h, List.all_eq_true.mp List.all_takeWhile⟩

theorem endsWord_dropWhile (cs : List Char) : EndsWord (cs.dropWhile Text.isWord) := by
  intro c hc
  cases hdrop : cs.dropWhile Text.isWord with
  | nil => simp [hdrop] at hc
  | cons c' rest =>
    have hne : cs.dropWhile Text.isWord ≠ [] := by simp [hdrop]
    have hfirst := List.head_dropWhile_not Text.isWord hne
    obtain rfl : c' = c := by simpa [hdrop] using hc
    simpa [hdrop] using hfirst

/-- no word begins with a brace -/
theorem not_isName_brace (cs : List Char) : ¬ IsName ('\x7b' :: cs) := fun h =>
  absurd (h.word '\x7b' List.mem_cons_self) (by decide)

theorem reference?_of_refers (h : Refers name written rest) :
    reference? (written ++ rest) = some (String.ofList name, written.length) := by
  cases h with
  | braced hname rest =>
    have hclose : EndsWord ('\x7d' :: rest) := fun c hc => by
      obtain rfl : '\x7d' = c := by simpa using hc
      decide
    have hcs : '\x7b' :: name ++ ['\x7d'] ++ rest = '\x7b' :: (name ++ '\x7d' :: rest) := by simp
    rw [hcs, reference?, takeWhile_name hname hclose, dropWhile_name hname hclose]
    cases name with
    | nil => exact absurd rfl hname.ne_nil
    | cons c cs => simp
  | bare hname hrest =>
    have htake := takeWhile_name hname hrest
    unfold reference?
    split
    · next cs hcs =>
      cases name with
      | nil => exact absurd rfl hname.ne_nil
      | cons c name =>
        obtain rfl : c = '\x7b' := (List.cons.inj hcs).1
        exact absurd hname (not_isName_brace name)
    · rw [htake]
      cases name with
      | nil => exact absurd rfl hname.ne_nil
      | cons c name => rfl

theorem refers_of_reference? {n : String} {used : Nat} (h : reference? cs = some (n, used)) :
    ∃ name written rest, cs = written ++ rest ∧ written.length = used ∧ n = String.ofList name ∧
      Refers name written rest := by
  unfold reference? at h
  split at h
  · next cs =>
    have hsplit : cs.takeWhile Text.isWord ++ cs.dropWhile Text.isWord = cs :=
      List.takeWhile_append_dropWhile
    dsimp only at h
    split at h
    · next c name rest htake hdrop =>
      have hname : IsName (cs.takeWhile Text.isWord) := isName_takeWhile (by simp [htake])
      rw [htake, hdrop] at hsplit
      rw [htake] at h hname
      obtain ⟨rfl, rfl⟩ := Prod.mk.inj (Option.some.inj h)
      refine ⟨c :: name, '\x7b' :: (c :: name) ++ ['\x7d'], rest, ?_, by simp, rfl,
        .braced hname rest⟩
      rw [← hsplit]
      simp
    · cases h
  · split at h
    · cases h
    · next hne =>
      obtain ⟨rfl, rfl⟩ := Prod.mk.inj (Option.some.inj h)
      exact ⟨_, _, _, List.takeWhile_append_dropWhile.symm, rfl, rfl,
        .bare (isName_takeWhile hne) (endsWord_dropWhile cs)⟩

theorem segmentsFrom_drop (skip : Nat) (cs : List Char) :
    segmentsFrom skip cs = segmentsFrom 0 (cs.drop skip) := by
  induction skip generalizing cs with
  | zero => rfl
  | succ skip ih =>
    cases cs with
    | nil => simp [segmentsFrom_nil]
    | cons c cs => exact ih cs

theorem segmentsFrom_reference (h : Refers name written rest) :
    segmentsFrom 0 ('$' :: written ++ rest) =
      .reference (String.ofList name) :: segmentsFrom 0 rest := by
  rw [List.cons_append, segmentsFrom, if_pos rfl, reference?_of_refers h]
  dsimp only
  rw [segmentsFrom_drop, List.drop_left]

theorem segmentsFrom_char {c : Char}
    (h : c = '$' → ∀ name written rest, cs = written ++ rest → ¬ Refers name written rest) :
    segmentsFrom 0 (c :: cs) = .char c :: segmentsFrom 0 cs := by
  rw [segmentsFrom]
  split
  · next hc =>
    cases href : reference? cs with
    | none => rfl
    | some r =>
      obtain ⟨name, written, rest, hcs, -, -, hrefers⟩ := refers_of_reference? href
      exact absurd hrefers (h hc name written rest hcs)
  · rfl

theorem scanned_segmentsFrom (cs : List Char) : Scanned cs (segmentsFrom 0 cs) := by
  -- a reference takes more than one character, so the induction is on the length
  induction hlen : cs.length using Nat.strongRecOn generalizing cs with
  | _ n ih =>
    cases cs with
    | nil => exact .nil
    | cons c cs =>
      by_cases h : c = '$' ∧ ∃ name written rest, cs = written ++ rest ∧ Refers name written rest
      · obtain ⟨rfl, name, written, rest, rfl, hrefers⟩ := h
        have hshort : rest.length < n := by
          rw [← hlen, List.length_cons, List.length_append]
          omega
        rw [← List.cons_append, segmentsFrom_reference hrefers]
        exact .reference hrefers (ih _ hshort rest rfl)
      · have hchar : c = '$' → ∀ name written rest, cs = written ++ rest →
            ¬ Refers name written rest :=
          fun hc name written rest hcs hrefers => h ⟨hc, name, written, rest, hcs, hrefers⟩
        have hshort : cs.length < n := by
          rw [← hlen, List.length_cons]
          omega
        rw [segmentsFrom_char hchar]
        exact .char hchar (ih _ hshort cs rfl)

/-- characters are read in one way -/
theorem scanned_iff {ss : List Segment} : Scanned cs ss ↔ ss = segmentsFrom 0 cs := by
  constructor
  · intro h
    induction h with
    | nil => rfl
    | reference h _ ih => rw [segmentsFrom_reference h, ih]
    | char h _ ih => rw [segmentsFrom_char h, ih]
  · rintro rfl
    exact scanned_segmentsFrom cs

end

/-! ## results that need variables -/

namespace Environment

variable {α β γ : Type} (env : Environment)

def isUnset (name : String) : Bool := (env.lookup name).isNone

/-- a result that needs some variables, or the first of them that is not set -/
def needing (names : List String) (a : α) : Except String α :=
  match names.find? env.isUnset with
  | some name => .error name
  | none => .ok a

variable {env}
variable {names : List String} {a : α}

theorem needing_nil (a : α) : env.needing [] a = .ok a := rfl

theorem map_needing (f : α → β) (names : List String) (a : α) :
    (env.needing names a).map f = env.needing names (f a) := by
  unfold needing
  cases names.find? env.isUnset <;> rfl

/-- two results in turn need the variables of both -/
theorem needing_both (names more : List String) (a : α) (b : β) (f : α → β → γ) :
    (do
      let a ← env.needing names a
      let b ← env.needing more b
      return f a b) = env.needing (names ++ more) (f a b) := by
  unfold needing
  rw [List.find?_append]
  cases names.find? env.isUnset with
  | some name => rfl
  | none => cases more.find? env.isUnset <;> rfl

theorem needing_error_iff {name : String} :
    env.needing names a = .error name ↔ names.find? env.isUnset = some name := by
  unfold needing
  cases names.find? env.isUnset <;> simp

theorem needing_ok_iff {b : α} :
    env.needing names a = .ok b ↔ (∀ name ∈ names, env.lookup name ≠ none) ∧ b = a := by
  have hset : names.find? env.isUnset = none ↔ ∀ name ∈ names, env.lookup name ≠ none := by
    simp [isUnset]
  unfold needing
  rw [← hset]
  cases names.find? env.isUnset <;> simp [eq_comm]

end Environment

/-! ## texts -/

/-- the name that a segment refers to -/
def Segment.name? : Segment → Option String
  | .char _ => none
  | .reference name => some name

/-- what stands in the place of a segment: the character itself, or the value of the variable -/
def Segment.shown (env : Environment) : Segment → List Char
  | .char c => [c]
  | .reference name => ((env.lookup name).getD "").toList

/-- the names that a text refers to, in their order -/
def referencesOf (s : String) : List String := (segments s).filterMap Segment.name?

theorem mem_referencesOf {s name : String} :
    name ∈ referencesOf s ↔ .reference name ∈ segments s := by
  rw [referencesOf, List.mem_filterMap]
  constructor
  · rintro ⟨seg, hseg, hname⟩
    cases seg with
    | char c => cases hname
    | reference n => exact Option.some.inj hname ▸ hseg
  · exact fun h => ⟨_, h, rfl⟩

/-- a text with the values of its variables -/
def replaced (env : Environment) (s : String) : String :=
  String.ofList ((segments s).flatMap (Segment.shown env))

section
variable {env : Environment}

theorem Segment.value_eq (s : Segment) :
    s.value env = env.needing s.name?.toList (s.shown env) := by
  cases s with
  | char c => rfl
  | reference name =>
    simp only [value, name?, shown, Environment.needing, Option.toList, List.find?,
      Environment.isUnset]
    cases env.lookup name <;> rfl

theorem expandSegments_eq (ss : List Segment) :
    expandSegments env ss =
      env.needing (ss.filterMap Segment.name?) (ss.flatMap (Segment.shown env)) := by
  induction ss with
  | nil => rfl
  | cons s ss ih =>
    have hnames : (s :: ss).filterMap Segment.name? =
        s.name?.toList ++ ss.filterMap Segment.name? := by
      cases s <;> rfl
    rw [expandSegments, ih, Segment.value_eq, hnames, List.flatMap_cons]
    exact Environment.needing_both ..

theorem expandText_eq (s : String) :
    expandText env s = env.needing (referencesOf s) (replaced env s) := by
  rw [expandText, expandSegments_eq, Environment.map_needing]
  rfl

end

/-! ## data -/

namespace Data

mutual

/-- the texts among the values of data, in their order; the keys of mappings are none of them -/
def texts : Data → List String
  | .text s => [s]
  | .list xs => textsOfItems xs
  | .mapping es => textsOfEntries es
  | _ => []

def textsOfItems : List Data → List String
  | [] => []
  | x :: xs => x.texts ++ textsOfItems xs

def textsOfEntries : List (Key × Data) → List String
  | [] => []
  | (_, v) :: es => v.texts ++ textsOfEntries es

end

mutual

/-- data with each text among its values changed; all else stays as it is -/
def mapTexts (f : String → String) : Data → Data
  | .text s => .text (f s)
  | .list xs => .list (mapItems f xs)
  | .mapping es => .mapping (mapEntries f es)
  | v => v

def mapItems (f : String → String) : List Data → List Data
  | [] => []
  | x :: xs => x.mapTexts f :: mapItems f xs

def mapEntries (f : String → String) : List (Key × Data) → List (Key × Data)
  | [] => []
  | (k, v) :: es => (k, v.mapTexts f) :: mapEntries f es

end

/-- the names that data refers to, in their order -/
def references (v : Data) : List String := v.texts.flatMap referencesOf

theorem mem_references {v : Data} {name : String} :
    name ∈ v.references ↔ ∃ s ∈ v.texts, .reference name ∈ segments s := by
  simp only [references, List.mem_flatMap, mem_referencesOf]

variable {env : Environment}

mutual

/-- data expands to itself with its texts replaced, and needs the variables that it refers to -/
theorem expand_eq (v : Data) :
    v.expand env = env.needing v.references (v.mapTexts (replaced env)) := by
  match v with
  | .text s => simp [expand, references, texts, mapTexts, expandText_eq, Environment.map_needing]
  | .list xs =>
    rw [expand, expandItems_eq xs, Environment.map_needing, references, texts, mapTexts]
  | .mapping es =>
    rw [expand, expandEntries_eq es, Environment.map_needing, references, texts, mapTexts]
  | .null | .bool _ | .int _ | .float _ | .bytes _ | .set _ | .other _ _ =>
    simp [expand, references, texts, mapTexts, Environment.needing_nil]

theorem expandItems_eq (xs : List Data) :
    expandItems env xs =
      env.needing ((textsOfItems xs).flatMap referencesOf) (mapItems (replaced env) xs) := by
  match xs with
  | [] => rw [expandItems, textsOfItems, mapItems]; rfl
  | x :: xs =>
    rw [expandItems, expand_eq x, expandItems_eq xs, textsOfItems, mapItems, List.flatMap_append]
    exact Environment.needing_both ..

theorem expandEntries_eq (es : List (Key × Data)) :
    expandEntries env es =
      env.needing ((textsOfEntries es).flatMap referencesOf) (mapEntries (replaced env) es) := by
  match es with
  | [] => rw [expandEntries, textsOfEntries, mapEntries]; rfl
  | (k, v) :: es =>
    rw [expandEntries, expand_eq v, expandEntries_eq es, textsOfEntries, mapEntries,
      List.flatMap_append]
    exact Environment.needing_both ..

end

end Data

/-- Data is expanded in one pass.  A text is read as characters and references in only one way;
where every variable referred to is set, the values of the variables stand in the places of the
references, and else the first one that is not set is named. -/
theorem expand_once (env : Environment) (v : Data) :
    (∀ s ss, Scanned (String.toList s) ss ↔ ss = segments s) ∧
    (∀ name, v.expand env = .error name ↔ v.references.find? env.isUnset = some name) ∧
    ((∃ name, v.expand env = .error name) ↔
      ∃ s ∈ v.texts, ∃ name, .reference name ∈ segments s ∧ env.lookup name = none) ∧
    ∀ w, v.expand env = .ok w ↔
      (∀ name ∈ v.references, env.lookup name ≠ none) ∧ w = v.mapTexts (replaced env) := by
  refine ⟨fun _ _ => scanned_iff, fun name => ?_, ?_, fun w => ?_⟩
  · rw [Data.expand_eq, Environment.needing_error_iff]
  · rw [Data.expand_eq, exists_congr fun _ => Environment.needing_error_iff,
      ← Option.isSome_iff_exists, List.find?_isSome]
    simp only [Data.mem_references, Environment.isUnset, Option.isNone_iff_eq_none]
    constructor
    · rintro ⟨name, ⟨s, hs, hname⟩, hunset⟩
      exact ⟨s, hs, name, hname, hunset⟩
    · rintro ⟨s, hs, name, hname, hunset⟩
      exact ⟨name, ⟨s, hs, hname⟩, hunset⟩
  · rw [Data.expand_eq, Environment.needing_ok_iff]

/-- a dollar sign before a reference, one that starts none, and a value that is taken as it is -/
example : expandText [("A", "$A")] "$$A-$\x7bA\x7d$\x7bA" = .ok "$$A-$A$\x7bA" := by rfl

end SampleTypes
