import SampleTypes.Proofs.Inference.Formed

/-!
# Values conform to their types

A declaration is that of the first record of its name, so a type says something about a value only
if records of one name have fields of the same types, and if the values of the pairs of an array,
of which the first one alone is looked at, have one type too.  Of such a value, inferred from
scratch, the type says the truth.

* `Conforms r v t`     `v` is as the type `t` says, with the declarations of the registry `r`;
* `Coherent s occ`     what has to hold of the values inside the value and their paths;
* `Backed s occ r`     the declarations of `r` are those of records among the values inside;
* `conforms_infer`     the main statement.
-/

namespace SampleTypes

/-- a value is as a type says: a record has the declared keys and no others -/
inductive Conforms (r : Registry) : Json → TypeExpr → Prop
  | unknown (v : Json) : Conforms r v .unknown
  | string (s : String) : Conforms r (.str s) (.name "string")
  | int (n : Int) : Conforms r (.int n) (.name "number")
  | float (x : Double) : Conforms r (.float x) (.name "number")
  | boolean (b : Bool) : Conforms r (.bool b) (.name "boolean")
  | array {xs : List Json} {t : TypeExpr} (h : ∀ x ∈ xs, Conforms r x t) :
      Conforms r (.arr xs) (.array t)
  | alternative {v : Json} {t : TypeExpr} {ts : List TypeExpr} (ht : t ∈ ts)
      (h : Conforms r v t) : Conforms r v (.union ts)
  | pair {fs : Record} {v : Json} {g : String} {t : TypeExpr} (hg : r.idValueName = some g)
      (hf : PairFields fs v) (h : Conforms r v t) : Conforms r (.obj fs) (.apply g t)
  | textPair {fs : Record} {s g : String} (hg : r.idValueName = some g)
      (hf : PairFields fs (.str s)) : Conforms r (.obj fs) (.name g)
  | record {fs : Record} {n : String} {d : TypeDecl} (hd : r.get? n = some d)
      (basic : ∀ p : Primitive, n ≠ p.name) (generic : r.idValueName ≠ some n)
      (keys : ∀ k, k ∈ Fields.names fs ↔ k ∈ Fields.names d.fields)
      (h : ∀ k v s, fs.lookup k = some v → d.fields.lookup k = some s → Conforms r v s.type) :
      Conforms r (.obj fs) (.name n)

/-- what two records of one name are compared by: the written type of a field and its flags -/
def Shape.face (s : Shape) : String × Bool × Bool × Bool :=
  (s.type.text, s.isArray, s.isOptional, s.isNullable)

namespace Infer

/-- what is inferred for a field of a record at a path -/
def fieldFace (s : Settings) (path : Path) (fs : Record) (k : String) :
    Option (String × Bool × Bool × Bool) :=
  ((fieldShapesAt s path fs).lookup k).map Shape.face

/-- records of one name have the same fields, none has the name of the generic type, and the
values of the pairs of an array have one type -/
structure Coherent (s : Settings) (occ : List (Path × Json)) : Prop where
  fields : ∀ p fs q gs, (p, .obj fs) ∈ occ → (q, .obj gs) ∈ occ → p.length ≤ maxDepth →
    q.length ≤ maxDepth → Name.recordName s.affixes p = Name.recordName s.affixes q →
    ∀ k, fieldFace s p fs k = fieldFace s q gs k
  generic : ∀ p fs, (p, .obj fs) ∈ occ → p.length ≤ maxDepth →
    Name.recordName s.affixes p ≠ Name.idValueName s.affixes
  pairs : ∀ p xs, (p, .arr xs) ∈ occ → xs.all isIdValuePair = true →
    ∀ i j x y v w, xs[i]? = some x → xs[j]? = some y → pairValue? x = some v →
      pairValue? y = some w →
      (shapeAt s (pairPath p i) v).type.text = (shapeAt s (pairPath p j) w).type.text

end Infer

/-! ## scalars -/

/-- a text, a number or a truth value -/
def Json.isScalar (v : Json) : Bool := v.isLeaf && !v.isNull

theorem Json.isScalar_iff {v : Json} :
    v.isScalar = true ↔ v.isLeaf = true ∧ v.isNull = false := by
  simp [isScalar]

theorem exists_text_of_kind {v : Json} (hv : v.isScalar = true) (h : Primitive.of v = .string) :
    ∃ t, v = .str t := by
  cases v with
  | str t => exact ⟨t, rfl⟩
  | null | arr | obj => exact Bool.noConfusion hv
  | bool | int | float => exact Primitive.noConfusion h

theorem conforms_scalar {r : Registry} {v : Json} (hv : v.isScalar = true) :
    Conforms r v (.name (Primitive.of v).name) := by
  cases v with
  | null | arr | obj => exact Bool.noConfusion hv
  | bool b => exact .boolean b
  | int n => exact .int n
  | float x => exact .float x
  | str s => exact .string s

/-- a basic type is that of the scalars of its kind, if it is not the name of the generic type -/
theorem conforms_basic_iff {r : Registry} {v : Json} {T : Primitive}
    (hg : r.idValueName ≠ some T.name) :
    Conforms r v (.name T.name) ↔ v.isScalar = true ∧ Primitive.of v = T := by
  constructor
  · intro h
    generalize e : TypeExpr.name T.name = t at h
    cases h with
    | unknown => cases T <;> exact absurd (TypeExpr.name.inj e) (by decide)
    | string | int | float | boolean =>
      refine ⟨rfl, ?_⟩
      cases T <;> first | rfl | exact absurd (TypeExpr.name.inj e) (by decide)
    | textPair h _ => exact absurd (TypeExpr.name.inj e ▸ h) hg
    | record _ basic => exact absurd (TypeExpr.name.inj e).symm (basic T)
    | array | alternative | pair => exact TypeExpr.noConfusion e
  · rintro ⟨hv, rfl⟩
    exact conforms_scalar hv

/-! ## names -/

/-- the names in the type are basic, declared or that of the generic type -/
inductive TypeExpr.Closed (r : Registry) : TypeExpr → Prop
  | unknown : Closed r .unknown
  | basic (p : Primitive) : Closed r (.name p.name)
  | declared {n : String} (h : n ∈ r.names) : Closed r (.name n)
  | generic {g : String} (hg : r.idValueName = some g) : Closed r (.name g)
  | array {t : TypeExpr} (h : Closed r t) : Closed r (.array t)
  | union {ts : List TypeExpr} (h : ∀ t ∈ ts, Closed r t) : Closed r (.union ts)
  | apply {g : String} {t : TypeExpr} (hg : r.idValueName = some g) (h : Closed r t) :
      Closed r (.apply g t)

namespace TypeExpr

theorem Formed.closed {r : Registry} {t : TypeExpr} (h : t.Formed r) : t.Closed r := by
  induction h with
  | unknown => exact .unknown
  | basic p => exact .basic p
  | declared h => exact .declared h
  | array _ ih => exact .array ih
  | union _ _ _ ih => exact .array (.union ih)
  | pairs hg => exact .array (.generic hg)
  | apply hg _ _ ih => exact .array (.apply hg ih)

/-- a name that is not basic is declared or that of the generic type -/
theorem Closed.name {r : Registry} {n : String} (hn : IsTypeName n) (h : Closed r (.name n)) :
    n ∈ r.names ∨ r.idValueName = some n := by
  generalize e : TypeExpr.name n = t at h
  cases h with
  | unknown => exact absurd (TypeExpr.name.inj e) hn.ne_unknown
  | basic p => exact absurd (TypeExpr.name.inj e) (hn.ne_basic p)
  | declared h => exact .inl (TypeExpr.name.inj e ▸ h)
  | generic hg => exact .inr (TypeExpr.name.inj e ▸ hg)
  | array | union | apply => exact TypeExpr.noConfusion e

theorem Closed.of_array {r : Registry} {t : TypeExpr} (h : Closed r (.array t)) : Closed r t := by
  cases h with
  | array h => exact h

theorem Closed.of_union {r : Registry} {t : TypeExpr} {ts : List TypeExpr}
    (h : Closed r (.union ts)) (ht : t ∈ ts) : Closed r t := by
  cases h with
  | union h => exact h t ht

theorem Closed.of_apply {r : Registry} {g : String} {t : TypeExpr} (h : Closed r (.apply g t)) :
    r.idValueName = some g ∧ Closed r t := by
  cases h with
  | apply hg h => exact ⟨hg, h⟩

/-- formed types consist of generated and basic names -/
theorem Formed.plain {r : Registry} (hn : ∀ n ∈ r.names, IsTypeName n)
    (hg : ∀ g, r.idValueName = some g → IsTypeName g) {t : TypeExpr} (h : t.Formed r) :
    Plain t := by
  induction h with
  | unknown => exact plain_unknown
  | basic p => exact plain_basic p
  | declared h => exact plain_of_isTypeName (hn _ h)
  | array _ ih => exact .array ih
  | union _ _ _ ih => exact .array (.union ih)
  | pairs h => exact .array (plain_of_isTypeName (hg _ h))
  | apply h _ _ ih => exact .array (.apply (hg _ h).ne_empty (hg _ h).1 ih)

end TypeExpr

namespace Infer

/-- the declarations of the registry are those of records among the values inside, the generic type
is named by the settings, and the declared types are formed -/
structure Backed (s : Settings) (occ : List (Path × Json)) (r : Registry) : Prop where
  reached : Reached s r
  record : ∀ d ∈ r.declarations, ∃ path fs, (path, .obj fs) ∈ occ ∧ path.length ≤ maxDepth ∧
    d = declarationAt s path fs

section
variable {s : Settings} {r : Registry} {occ : List (Path × Json)}

theorem backed_findings (ha : s.affixes.isPlain = true) (path : Path) (v : Json) :
    Backed s (occurrences path v) (({} : Registry).takeAll (findings s path v)) := by
  refine ⟨((reached_empty s).step ha path v).1, fun d hd => ?_⟩
  have hf := (mem_declarations_takeAll hd).resolve_left (by simp)
  exact from_occurrences s v path _ hf

theorem Backed.exists_of_mem_names (h : Backed s occ r) {n : String} (hn : n ∈ r.names) :
    ∃ path fs, (path, .obj fs) ∈ occ ∧ path.length ≤ maxDepth ∧
      Name.recordName s.affixes path = n := by
  obtain ⟨d, hd, rfl⟩ := List.mem_map.mp hn
  obtain ⟨path, fs, hm, hlen, rfl⟩ := h.record d hd
  exact ⟨path, fs, hm, hlen, rfl⟩

theorem Backed.generic_eq (h : Backed s occ r) {g : String} (hg : r.idValueName = some g) :
    g = Name.idValueName s.affixes := by
  rcases h.reached.generic with e | e
  · rw [hg] at e
    exact absurd e (by simp)
  · rw [hg] at e
    exact Option.some.inj e

/-- inferred types consist of generated and basic names -/
theorem plain_shapeAt (ha : s.affixes.isPlain = true) (path : Path) (v : Json) :
    (shapeAt s path v).type.Plain := by
  have hb := backed_findings ha path v
  refine (((reached_empty s).step ha path v).2.self.formed).plain (fun n hn => ?_) fun g hg => ?_
  · obtain ⟨q, _, _, _, rfl⟩ := hb.exists_of_mem_names hn
    exact isTypeName_recordName ha q
  · rw [hb.generic_eq hg]
    exact isTypeName_idValueName ha

/-- inferred types that are written alike are equal -/
theorem type_eq_of_text (ha : s.affixes.isPlain = true) {p q : Path} {v w : Json}
    (h : (shapeAt s p v).type.text = (shapeAt s q w).type.text) :
    (shapeAt s p v).type = (shapeAt s q w).type :=
  TypeExpr.text_inj (plain_shapeAt ha p v) (plain_shapeAt ha q w) h

/-! ## arrays -/

theorem mem_itemShapesAt (s : Settings) (path : Path) (j : Nat) {xs : List Json} {i : Nat}
    {x : Json} (h : xs[i]? = some x) :
    shapeAt s (path ++ [Name.marker (j + i)]) x ∈ itemShapesAt s path j xs := by
  induction xs generalizing i j with
  | nil => simp at h
  | cons y xs ih =>
    rw [itemShapesAt]
    cases i with
    | zero =>
      obtain rfl : y = x := by simpa using h
      exact List.mem_cons_self
    | succ i =>
      rw [List.getElem?_cons_succ] at h
      have := ih (j + 1) h
      rw [Nat.add_right_comm, Nat.add_assoc] at this
      exact List.mem_cons_of_mem _ this

theorem exists_of_mem_itemShapesAt {path : Path} {xs : List Json} {j : Nat} {t : Shape}
    (h : t ∈ itemShapesAt s path j xs) : ∃ q x, t = shapeAt s q x := by
  induction xs generalizing j with
  | nil => simp [itemShapesAt] at h
  | cons y xs ih =>
    rw [itemShapesAt] at h
    rcases List.mem_cons.mp h with rfl | h
    · exact ⟨_, _, rfl⟩
    · exact ih h

theorem type_union (ts : List TypeExpr) : ∃ t, (Elements.union ts).shape.type = .array t ∧
    ∀ u ∈ ts, u = t ∨ ∃ us, t = .union us ∧ u ∈ us := by
  cases ts with
  | nil => exact ⟨.union [], rfl, by simp⟩
  | cons t ts =>
    cases ts with
    | nil => exact ⟨t, rfl, fun u hu => .inl (List.mem_singleton.mp hu)⟩
    | cons t' ts => exact ⟨_, rfl, fun u hu => .inr ⟨_, rfl, hu⟩⟩

/-- the type of an array is that of arrays of a type that each item has or that is a union with the
item's type among its alternatives -/
theorem type_arrayShape {ss : List Shape} (hne : ss ≠ []) (hp : ∀ t ∈ ss, t.type.Plain) :
    ∃ t, (arrayShape ss).type = .array t ∧
      ∀ u ∈ ss, u.type = t ∨ ∃ ts, t = .union ts ∧ u.type ∈ ts := by
  obtain ⟨first, rest, rfl⟩ := List.exists_cons_of_ne_nil hne
  rw [arrayShape, Elements.of?]
  split
  · rename_i hall
    rw [Bool.and_eq_true, List.all_eq_true] at hall
    refine ⟨first.type, rfl, fun u hu => .inl ?_⟩
    have := hall.2 u hu
    rw [Elements.agrees, Bool.and_eq_true, Bool.and_eq_true, beq_iff_eq] at this
    exact TypeExpr.text_inj (hp u hu) (hp first (by simp)) this.1.1
  · have hmem : ∀ u ∈ first :: rest,
        u.type ∈ distinctBy TypeExpr.text ((first :: rest).map (·.type)) := by
      intro u hu
      have hin : u.type ∈ (first :: rest).map (·.type) := List.mem_map_of_mem hu
      obtain ⟨t, ht, e⟩ : ∃ t ∈ distinctBy TypeExpr.text ((first :: rest).map (·.type)),
        t.text = u.type.text := exists_mem_distinctBy hin
      obtain ⟨w, hw, rfl⟩ := List.mem_map.mp (mem_of_mem_distinctBy ht)
      rwa [TypeExpr.text_inj (hp w hw) (hp u hu) e] at ht
    obtain ⟨t, ht, halt⟩ := type_union (distinctBy TypeExpr.text ((first :: rest).map (·.type)))
    exact ⟨t, ht, fun u hu => halt _ (hmem u hu)⟩

/-! ## records -/

theorem mem_names_iff_fieldFace (s : Settings) (path : Path) {fs : Record} {k : String} :
    k ∈ Fields.names fs ↔ (fieldFace s path fs k).isSome = true := by
  rw [fieldFace, lookup_fieldShapesAt, Option.isSome_map, Option.isSome_map,
    Option.isSome_iff_exists]
  exact ⟨Fields.exists_lookup_of_mem_names, fun ⟨_, h⟩ => Fields.mem_names_of_lookup h⟩

/-- records with the same faces have fields of the same types -/
theorem type_eq_of_face (ha : s.affixes.isPlain = true) {p q : Path} {fs gs : Record} {k : String}
    (h : fieldFace s p fs k = fieldFace s q gs k) {v : Json} (hv : fs.lookup k = some v)
    {t : Shape} (ht : (fieldShapesAt s q gs).lookup k = some t) :
    (shapeAt s (p ++ [k]) v).type = t.type := by
  rw [fieldFace, fieldFace, ht, lookup_fieldShapesAt, hv] at h
  have htext := congrArg Prod.fst (Option.some.inj h)
  rw [lookup_fieldShapesAt] at ht
  obtain ⟨w, _, rfl⟩ := Option.map_eq_some_iff.mp ht
  change (fieldShape s _ _ _).type.text = (fieldShape s _ _ _).type.text at htext
  rw [type_fieldShape, type_fieldShape] at htext
  rw [type_fieldShape]
  exact type_eq_of_text ha htext

/-! ## all values -/

/-- a value inside conforms to its type wherever it stands, if the names in the type are known -/
def ConformsAt (s : Settings) (occ : List (Path × Json)) (r : Registry) (v : Json) : Prop :=
  ∀ path, occurrences path v ⊆ occ → (shapeAt s path v).type.Closed r →
    Conforms r v (shapeAt s path v).type

theorem conformsAt_items {xs : List Json} (ha : s.affixes.isPlain = true)
    (h : ∀ x ∈ xs, ConformsAt s occ r x) {path : Path} (hd : ¬ maxDepth < path.length)
    (hne : xs ≠ []) (hp : xs.all isIdValuePair = false) (hsub : occurrences path (.arr xs) ⊆ occ)
    (hclosed : (shapeAt s path (.arr xs)).type.Closed r) :
    Conforms r (.arr xs) (shapeAt s path (.arr xs)).type := by
  rw [shapeAt_items hd hne hp] at hclosed ⊢
  have hss : itemShapesAt s path 0 xs ≠ [] := by
    obtain ⟨x, rest, rfl⟩ := List.exists_cons_of_ne_nil hne
    exact List.cons_ne_nil _ _
  obtain ⟨t, ht, halt⟩ := type_arrayShape hss fun u hu => by
    obtain ⟨q, x, rfl⟩ := exists_of_mem_itemShapesAt hu
    exact plain_shapeAt ha q x
  rw [ht] at hclosed ⊢
  refine .array fun x hx => ?_
  obtain ⟨i, hi⟩ := List.getElem?_of_mem hx
  have hmem := mem_itemShapesAt s path 0 hi
  rw [Nat.zero_add] at hmem
  have hocc := List.Subset.trans (occurrences_item hp hi) hsub
  rcases halt _ hmem with e | ⟨ts, rfl, hts⟩
  · exact e ▸ h x hx _ hocc (e ▸ hclosed.of_array)
  · exact .alternative hts (h x hx _ hocc (hclosed.of_array.of_union hts))

theorem exists_text {v : Json} (hb : Backed s occ r) (ha : s.affixes.isPlain = true)
    (h : Conforms r v (.name "string")) : ∃ t, v = .str t := by
  have hg : r.idValueName ≠ some Primitive.string.name := fun e =>
    (isTypeName_idValueName ha).ne_basic .string (hb.generic_eq e).symm
  obtain ⟨hv, hkind⟩ := (conforms_basic_iff hg).mp h
  exact exists_text_of_kind hv hkind

theorem conformsAt_pairs {xs : List Json} (ha : s.affixes.isPlain = true) (hb : Backed s occ r)
    (hc : Coherent s occ) (h : ∀ fs v, .obj fs ∈ xs → PairFields fs v → ConformsAt s occ r v)
    {path : Path} (hd : ¬ maxDepth < path.length) (hne : xs ≠ []) (hp : xs.all isIdValuePair = true)
    (hsub : occurrences path (.arr xs) ⊆ occ)
    (hclosed : (shapeAt s path (.arr xs)).type.Closed r) :
    Conforms r (.arr xs) (shapeAt s path (.arr xs)).type := by
  obtain ⟨fs, v, rest, hxs, hf⟩ := exists_firstPair hne hp
  have hfirst : pairShapeAt s path xs = shapeAt s (pairPath path 0) v := by
    rw [hxs, pairShapeAt_cons hf]
  -- every item is a pair, and its value has the type of the first value
  have hpairs : ∀ x ∈ xs, ∃ gs w q, x = .obj gs ∧ PairFields gs w ∧ occurrences q w ⊆ occ ∧
      (shapeAt s q w).type = (shapeAt s (pairPath path 0) v).type ∧ ConformsAt s occ r w := by
    intro x hx
    obtain ⟨gs, w, rfl, hw⟩ := isIdValuePair_iff.mp (List.all_eq_true.mp hp x hx)
    obtain ⟨i, hi⟩ := List.getElem?_of_mem hx
    have hpw : pairValue? (.obj gs) = some w := pairValue?_eq_some_iff.mpr ⟨gs, rfl, hw⟩
    have hpv : pairValue? (.obj fs) = some v := pairValue?_eq_some_iff.mpr ⟨fs, rfl, hf⟩
    have htext := hc.pairs path xs (hsub (mem_occurrences_self _ _)) hp i 0 _ _ w v hi
      (by rw [hxs]; rfl) hpw hpv
    exact ⟨gs, w, pairPath path i, rfl, hw, List.Subset.trans (occurrences_pair hp hi hpw) hsub,
      type_eq_of_text ha htext, h gs w hx hw⟩
  rw [shapeAt_pairs hd hne hp, hfirst] at hclosed ⊢
  revert hclosed
  generalize hT : (shapeAt s (pairPath path 0) v).type = T at hpairs
  intro hclosed
  change (pairsType (Name.idValueName s.affixes) T).Closed r at hclosed
  show Conforms r (.arr xs) (pairsType (Name.idValueName s.affixes) T)
  rw [pairsType] at hclosed ⊢
  split at hclosed
  · rename_i htext
    have hTs : T = .name "string" := by
      refine TypeExpr.text_inj (hT ▸ plain_shapeAt ha _ v) (TypeExpr.plain_basic .string) ?_
      rw [htext, TypeExpr.text]
    -- the name is not that of a record, so it is the generic one
    have hg : r.idValueName = some (Name.idValueName s.affixes) := by
      refine (hclosed.of_array.name (isTypeName_idValueName ha)).resolve_left fun hn => ?_
      obtain ⟨q, gs, hm, hlen, e⟩ := hb.exists_of_mem_names hn
      exact hc.generic q gs hm hlen e
    rw [if_pos htext]
    refine .array fun x hx => ?_
    obtain ⟨gs, w, q, rfl, hw, hocc, e, hcw⟩ := hpairs x hx
    have hconf : Conforms r w (.name "string") := by
      have := hcw q hocc (by rw [e, hTs]; exact .basic .string)
      rwa [e, hTs] at this
    obtain ⟨t, rfl⟩ := exists_text hb ha hconf
    exact .textPair hg hw
  · rename_i htext
    obtain ⟨hg, hT⟩ := hclosed.of_array.of_apply
    rw [if_neg htext]
    refine .array fun x hx => ?_
    obtain ⟨gs, w, q, rfl, hw, hocc, e, hcw⟩ := hpairs x hx
    exact .pair hg hw (e ▸ hcw q hocc (e ▸ hT))

theorem conformsAt_record {fs : Record} (ha : s.affixes.isPlain = true) (hb : Backed s occ r)
    (hc : Coherent s occ) (h : ∀ p ∈ fs, ConformsAt s occ r p.2) {path : Path}
    (hd : ¬ maxDepth < path.length) (hsub : occurrences path (.obj fs) ⊆ occ)
    (hclosed : (shapeAt s path (.obj fs)).type.Closed r) :
    Conforms r (.obj fs) (shapeAt s path (.obj fs)).type := by
  rw [shapeAt_record hd] at hclosed ⊢
  have hself := hsub (mem_occurrences_self path (.obj fs))
  have hname := isTypeName_recordName ha path
  have hgeneric : r.idValueName ≠ some (Name.recordName s.affixes path) := fun e =>
    hc.generic path fs hself (Nat.not_lt.mp hd) (hb.generic_eq e)
  have hmem := (hclosed.name hname).resolve_right hgeneric
  -- the declaration is that of a record of the same name
  obtain ⟨d, hdmem, hdname, hget⟩ := Registry.exists_get? hmem
  obtain ⟨q, gs, hq, hlen, rfl⟩ := hb.record d hdmem
  have hfaces := hc.fields path fs q gs hself hq (Nat.not_lt.mp hd) hlen hdname.symm
  refine .record hget hname.ne_basic hgeneric (fun k => ?_) fun k v t hv ht => ?_
  · rw [mem_names_iff_fieldFace s path, hfaces k, ← mem_names_iff_fieldFace]
    show _ ↔ k ∈ Fields.names (fieldShapesAt s q gs)
    rw [Fields.names, Fields.names, fieldShapesAt, List.map_map]
    rfl
  · have htype := type_eq_of_face ha (hfaces k) hv ht
    have hvmem := Fields.mem_of_lookup hv
    have hformed := (hb.reached.sound _ hdmem _ (Fields.mem_of_lookup ht)).self.formed
    rw [← htype] at hformed ⊢
    exact h (k, v) hvmem _ (List.Subset.trans (occurrences_field hvmem) hsub) hformed.closed

theorem conforms_leafShape {v : Json} (hv : v.isLeaf = true) :
    Conforms r v (leafShape v).type := by
  rw [leafShape]
  cases hn : v.isNull with
  | true => exact .unknown v
  | false => exact conforms_scalar (Json.isScalar_iff.mpr ⟨hv, hn⟩)

theorem conformsAt (ha : s.affixes.isPlain = true) (hb : Backed s occ r) (hc : Coherent s occ)
    (v : Json) : ConformsAt s occ r v := by
  intro path
  induction path, v using Infer.induction with
  | deep path v hd => exact fun _ _ => shapeAt_deep hd v ▸ .unknown _
  | leaf path v hd hv => exact fun _ _ => shapeAt_leaf hd hv ▸ conforms_leafShape hv
  | empty path hd => exact fun _ _ => shapeAt_empty hd ▸ .array (by simp)
  | pairs path xs hd hne hp ih => exact conformsAt_pairs ha hb hc ih hd hne hp
  | items path xs hd hne hp ih => exact conformsAt_items ha ih hd hne hp
  | record path fs hd ih => exact conformsAt_record ha hb hc ih hd

/-- a coherent value, inferred from scratch, conforms to its type -/
theorem conforms_infer (ha : s.affixes.isPlain = true) {path : Path} {v : Json}
    (hc : Coherent s (occurrences path v)) :
    Conforms (infer s path {} v).2.registry v (infer s path {} v).1.type := by
  have hb := backed_findings ha path v
  rw [registry_infer, shape_infer]
  refine conformsAt ha hb hc v path (List.Subset.refl _) ?_
  exact ((reached_empty s).step ha path v).2.self.formed.closed

end

/-- the values of two pairs are records of one name, of which the first one alone is looked at -/
theorem conforms_infer_pairs :
    let s : Settings := { affixes := ⟨"P_", "$"⟩ }
    let pairs : List Json := [.obj [("id", .str "u"), ("value", .obj [("x", .int 1)])],
      .obj [("value", .obj [("x", .int 2)]), ("id", .str "w")]]
    let v : Json := .obj [("b", .arr pairs)]
    s.affixes.isPlain = true ∧ Coherent s (occurrences [] v) ∧
      Conforms (infer s [] {} v).2.registry v (infer s [] {} v).1.type := by
  intro s pairs v
  have ha : s.affixes.isPlain = true := by decide
  have hocc : occurrences [] v = [([], v), (["b"], .arr pairs),
      (["b", "[0]", "value"], .obj [("x", .int 1)]), (["b", "[0]", "value", "x"], .int 1),
      (["b", "[1]", "value"], .obj [("x", .int 2)]), (["b", "[1]", "value", "x"], .int 2)] := rfl
  have hrecord : ∀ p fs, (p, .obj fs) ∈ occurrences [] v → p = [] ∧ fs = [("b", .arr pairs)] ∨
      p = ["b", "[0]", "value"] ∧ fs = [("x", .int 1)] ∨
        p = ["b", "[1]", "value"] ∧ fs = [("x", .int 2)] := by
    intro p fs h
    rw [hocc] at h
    simpa [v] using h
  have hc : Coherent s (occurrences [] v) := by
    refine ⟨fun p fs q gs hp hq _ _ hname k => ?_, fun p fs hp _ => ?_,
      fun p xs hp _ i j x y a b hi hj ha hb => ?_⟩
    · rcases hrecord p fs hp with ⟨rfl, rfl⟩ | ⟨rfl, rfl⟩ | ⟨rfl, rfl⟩ <;>
        rcases hrecord q gs hq with ⟨rfl, rfl⟩ | ⟨rfl, rfl⟩ | ⟨rfl, rfl⟩ <;>
        first | rfl | exact absurd hname (by decide)
    · rcases hrecord p fs hp with ⟨rfl, _⟩ | ⟨rfl, _⟩ | ⟨rfl, _⟩ <;> decide
    · obtain ⟨rfl, rfl⟩ : p = ["b"] ∧ xs = pairs := by
        rw [hocc] at hp
        simpa [v] using hp
      have htext : ∀ i x a, pairs[i]? = some x → pairValue? x = some a →
          (shapeAt s (pairPath ["b"] i) a).type.text = "P_Value$" := by
        intro i x a hi ha
        match i with
        | 0 => cases hi; cases ha; rfl
        | 1 => cases hi; cases ha; rfl
        | i + 2 => simp [pairs] at hi
      exact (htext i x a hi ha).trans (htext j y b hj hb).symm
  exact ⟨ha, hc, conforms_infer ha hc⟩
end Infer

end SampleTypes
