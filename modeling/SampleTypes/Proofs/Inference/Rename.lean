import SampleTypes.Declaration.Document
import SampleTypes.Proofs.Inference.Layers
import SampleTypes.Proofs.Inference.Visits
import SampleTypes.Proofs.Shape.Rename

/-!
# Affixes change names only

An inference with affixes takes the same decisions as one without, so its shapes and its registry
are those of the other one with names changed: a record's name is put between the affixes, and the
name of the generic type gets the leading one.

* `r.rename f`             the registry with the names in it changed;
* `r.renaming a`           the change of names that affixes make, for the names of the registry
                           without them;
* `Renames a r f`          what is used of such a change;
* `renamed_findings`       shape and findings of a value, with affixes, are the renamed ones;
* `infer_renamed`          the same of an inference, if no record has the name of the generic type.
-/

namespace SampleTypes

open Declaration TypeExpr

/-! ## registries with other names -/

/-- the declaration with its name and the names in its types changed -/
def TypeDecl.rename (f : String → String) (d : TypeDecl) : TypeDecl :=
  let fields := d.fields.map fun p => (p.1, p.2.rename f)
  ⟨f d.name, fields, interfaceText (f d.name) fields⟩

def Infer.Finding.rename (f : String → String) : Infer.Finding → Infer.Finding
  | .record d => .record (d.rename f)
  | .generic n => .generic (f n)

namespace Registry

open Infer

/-- the registry with the names in it changed -/
def rename (f : String → String) (r : Registry) : Registry :=
  ⟨r.declarations.map (TypeDecl.rename f), r.idValueName.map f⟩

/-- a name that types can mention: declared, basic, or that of the generic type -/
def Knows (r : Registry) (n : String) : Prop :=
  n ∈ r.names ∨ IsBasic n ∨ r.idValueName = some n

theorem names_rename (f : String → String) (r : Registry) :
    (r.rename f).names = r.names.map f := by
  rw [names, rename, List.map_map, names, List.map_map]
  rfl

section
variable {f : String → String} {P : String → Prop} {r : Registry}

theorem contains_rename (hf : Faithful f P) (hr : ∀ n ∈ r.names, P n) {n : String} (hn : P n) :
    (r.rename f).contains (f n) = r.contains n := by
  rw [Bool.eq_iff_iff, contains_eq_true_iff, contains_eq_true_iff, names_rename, List.mem_map]
  constructor
  · rintro ⟨m, hm, e⟩
    rw [← hf.inj m n (hr m hm) hn e]
    exact hm
  · intro h
    exact ⟨n, h, rfl⟩

theorem take_rename (hf : Faithful f P) (hr : ∀ n ∈ r.names, P n) {x : Finding}
    (hx : ∀ n, x.key = some n → P n) :
    (r.rename f).take (x.rename f) = (r.take x).rename f := by
  cases x with
  | record d =>
    have hc : (r.rename f).contains (d.rename f).name = r.contains d.name :=
      contains_rename hf hr (hx d.name rfl)
    show (r.rename f).register (d.rename f) = (r.register d).rename f
    rw [register, register, hc]
    split
    · rfl
    · rw [rename, rename, List.map_append, List.map_singleton]
  | generic n =>
    show (r.rename f).registerIdValue (f n) = (r.registerIdValue n).rename f
    rw [registerIdValue, registerIdValue, rename, rename]
    cases r.idValueName <;> rfl

/-- taking in what was found commutes with a change of names -/
theorem takeAll_rename (hf : Faithful f P) {xs : List Finding} (hr : ∀ n ∈ r.names, P n)
    (hx : ∀ x ∈ xs, ∀ n, x.key = some n → P n) :
    (r.rename f).takeAll (xs.map (Finding.rename f)) = (r.takeAll xs).rename f := by
  induction xs generalizing r with
  | nil => rfl
  | cons x xs ih =>
    obtain ⟨hfirst, hrest⟩ := List.forall_mem_cons.mp hx
    have hnames : ∀ n ∈ (r.take x).names, P n := by
      intro n hn
      obtain ⟨d, hd, rfl⟩ := List.mem_map.mp hn
      rcases mem_declarations_take hd with hd | rfl
      · exact hr d.name (List.mem_map_of_mem hd)
      · exact hfirst d.name rfl
    rw [List.map_cons, takeAll_cons, takeAll_cons, take_rename hf hr hfirst, ih hnames hrest]

end

end Registry

/-! ## the change of names that affixes make -/

theorem Affixes.around_inj {a : Affixes} {m n : String} (h : a.around m = a.around n) : m = n := by
  have e := congrArg String.toList h
  rw [around, around, String.toList_append, String.toList_append, String.toList_append,
    String.toList_append] at e
  exact String.toList_inj.mp (List.append_cancel_left (List.append_cancel_right e))

theorem Affixes.around_none (n : String) : ({} : Affixes).around n = n := by
  rw [around, String.empty_append, String.append_empty]

/-- with affixes a record's name is the one without, between them -/
theorem Name.recordName_eq_around (a : Affixes) (path : Path) :
    recordName a path = a.around (recordName {} path) := by
  rw [recordName, recordName, Affixes.around_none]

/-- no record has the name of the generic type -/
def Registry.Apart (r : Registry) : Prop := ∀ g ∈ r.idValueName, g ∉ r.names

instance (r : Registry) : Decidable r.Apart :=
  inferInstanceAs (Decidable (∀ g ∈ r.idValueName, g ∉ r.names))

/-- what affixes make of the names of a registry without affixes -/
def Registry.renaming (r : Registry) (a : Affixes) (n : String) : String :=
  if n ∈ r.names then a.around n
  else if r.idValueName = some n then Name.idValueName a
  else n

namespace Infer

/-- a change of names is the one that affixes make, and no two names become one -/
structure Renames (a : Affixes) (r : Registry) (f : String → String) : Prop where
  faithful : Faithful f r.Knows
  basic : ∀ n, IsBasic n → f n = n
  record : ∀ n ∈ r.names, f n = a.around n
  generic : ∀ g, r.idValueName = some g → f g = Name.idValueName a

section
variable {a : Affixes} {nullable : List Path} {r : Registry}

theorem renaming_record {n : String} (hn : n ∈ r.names) : r.renaming a n = a.around n := if_pos hn

theorem renaming_generic (hbare : r.Apart) {g : String} (hg : r.idValueName = some g) :
    r.renaming a g = Name.idValueName a := by
  rw [Registry.renaming, if_neg (hbare g hg), if_pos hg]

theorem renaming_basic (h : Layered ⟨{}, nullable⟩ r) {n : String} (hn : IsBasic n) :
    r.renaming a n = n := by
  have hg : r.idValueName ≠ some n := by
    intro hg
    rw [h.idValueName_eq hg] at hn
    exact not_isBasic_of_isTypeName (isTypeName_idValueName rfl) hn
  rw [Registry.renaming, if_neg fun hm => h.not_isBasic rfl hm hn, if_neg hg]

theorem isTypeName_renaming (h : Layered ⟨{}, nullable⟩ r) (ha : a.isPlain = true)
    (hbare : r.Apart) {n : String} (hn : n ∈ r.names ∨ r.idValueName = some n) :
    IsTypeName (r.renaming a n) := by
  rcases hn with hn | hn
  · rw [renaming_record hn]
    obtain ⟨d, hd, rfl⟩ := List.mem_map.mp hn
    obtain ⟨path, fs, rfl⟩ := h.declared d hd
    show IsTypeName (a.around (Name.recordName {} path))
    rw [← Name.recordName_eq_around]
    exact isTypeName_recordName ha path
  · rw [renaming_generic hbare hn]
    exact isTypeName_idValueName ha

/-- no two names become one: names of different kinds stay apart, and those of one kind do -/
theorem renaming_inj (h : Layered ⟨{}, nullable⟩ r) (ha : a.isPlain = true) (hbare : r.Apart)
    (hnamed : ∀ g ∈ r.idValueName, ∀ n ∈ r.names, a.around n ≠ Name.idValueName a)
    {m n : String} (hm : r.Knows m) (hn : r.Knows n) (e : r.renaming a m = r.renaming a n) :
    m = n := by
  have basic_ne : ∀ {m n}, IsBasic m → n ∈ r.names ∨ r.idValueName = some n →
      r.renaming a m ≠ r.renaming a n := by
    intro m n hm hn e
    rw [renaming_basic h hm] at e
    exact not_isBasic_of_isTypeName (isTypeName_renaming h ha hbare hn) (e ▸ hm)
  have generic_ne : ∀ {m n}, r.idValueName = some m → n ∈ r.names →
      r.renaming a m ≠ r.renaming a n := by
    intro m n hm hn e
    rw [renaming_generic hbare hm, renaming_record hn] at e
    exact hnamed m hm n hn e.symm
  rcases hm with hm | hm | hm
  · rcases hn with hn | hn | hn
    · rw [renaming_record hm, renaming_record hn] at e
      exact Affixes.around_inj e
    · exact absurd e.symm (basic_ne hn (.inl hm))
    · exact absurd e.symm (generic_ne hn hm)
  · rcases hn with hn | hn | hn
    · exact absurd e (basic_ne hm (.inl hn))
    · rwa [renaming_basic h hm, renaming_basic h hn] at e
    · exact absurd e (basic_ne hm (.inr hn))
  · rcases hn with hn | hn | hn
    · exact absurd e (generic_ne hm hn)
    · exact absurd e.symm (basic_ne hn (.inr hm))
    · exact Option.some.inj (hm.symm.trans hn)

/-- affixes change names as they should, if records are told from the generic type before and
after -/
theorem renames_renaming (h : Layered ⟨{}, nullable⟩ r) (ha : a.isPlain = true)
    (hbare : r.Apart)
    (hnamed : ∀ g ∈ r.idValueName, ∀ n ∈ r.names, a.around n ≠ Name.idValueName a) :
    Renames a r (r.renaming a) := by
  have hbefore : ∀ n, r.Knows n → Plain (.name n) := by
    rintro n (hn | hn | hn)
    · exact plain_of_isTypeName (h.isTypeName rfl hn)
    · exact hn.plain
    · rw [h.idValueName_eq hn]
      exact plain_of_isTypeName (isTypeName_idValueName rfl)
  have hafter : ∀ n, r.Knows n → Plain (.name (r.renaming a n)) := by
    rintro n (hn | hn | hn)
    · exact plain_of_isTypeName (isTypeName_renaming h ha hbare (.inl hn))
    · rw [renaming_basic h hn]
      exact hn.plain
    · exact plain_of_isTypeName (isTypeName_renaming h ha hbare (.inr hn))
  exact ⟨⟨fun m n => renaming_inj h ha hbare hnamed, hbefore, hafter⟩,
    fun n => renaming_basic h, fun n => renaming_record, fun g => renaming_generic hbare⟩

end

/-! ## shapes and findings -/

section
variable {f : String → String} {P : String → Prop}

theorem agrees_rename (hf : Faithful f P) {s t : Shape} (hs : ∀ n ∈ s.type.names, P n)
    (ht : ∀ n ∈ t.type.names, P n) :
    Elements.agrees (s.rename f) (t.rename f) = Elements.agrees s t := by
  have htext : ((t.rename f).type.text == (s.rename f).type.text) =
      (t.type.text == s.type.text) := by
    rw [Shape.type_rename, Shape.type_rename, Bool.eq_iff_iff, beq_iff_eq, beq_iff_eq]
    exact text_rename_eq_iff hf ht hs
  rw [Elements.agrees, htext, Elements.agrees, Shape.rename_eq, Shape.rename_eq, List.length_map,
    List.length_map]

theorem distinctBy_rename (hf : Faithful f P) {ts : List TypeExpr}
    (hts : ∀ t ∈ ts, ∀ n ∈ t.names, P n) :
    distinctBy text (ts.map (TypeExpr.rename f)) =
      (distinctBy text ts).map (TypeExpr.rename f) := by
  rw [distinctBy_map]
  refine congrArg _ (distinctBy_congr fun t ht u hu => ?_)
  exact text_rename_eq_iff hf (hts t ht) (hts u hu)

theorem union_rename (f : String → String) (ts : List TypeExpr) :
    (Elements.union (ts.map (TypeExpr.rename f))).shape = (Elements.union ts).shape.rename f := by
  match ts with
  | [] | _ :: _ :: _ =>
    rw [Shape.rename_eq]
    simp only [Elements.shape, List.map_nil, List.map_cons, rename_array, rename_union]
  | [t] =>
    rw [Shape.rename_eq]
    simp only [Elements.shape, List.map_nil, List.map_cons, rename_array]

/-- the shape of an array with its items renamed -/
theorem arrayShape_rename (hf : Faithful f P) {ss : List Shape} (hne : ss ≠ [])
    (hss : ∀ s ∈ ss, ∀ n ∈ s.type.names, P n) :
    arrayShape (ss.map (Shape.rename f)) = (arrayShape ss).rename f := by
  obtain ⟨first, rest, rfl⟩ := List.exists_cons_of_ne_nil hne
  have hfirst := hss first List.mem_cons_self
  have hhead : ((first :: rest).map (Shape.rename f)).head? = some (first.rename f) := rfl
  have hall : ((first :: rest).map (Shape.rename f)).all (Elements.agrees (first.rename f)) =
      (first :: rest).all (Elements.agrees first) := by
    rw [List.all_map, Bool.eq_iff_iff, List.all_eq_true, List.all_eq_true]
    refine forall₂_congr fun s hs => ?_
    rw [Function.comp_apply, agrees_rename hf hfirst (hss s hs)]
  have htypes : ((first :: rest).map (Shape.rename f)).map (·.type) =
      ((first :: rest).map (·.type)).map (TypeExpr.rename f) := by
    rw [List.map_map, List.map_map]
    exact List.map_congr_left fun s _ => Shape.type_rename f s
  have hkept : distinctBy text (((first :: rest).map (·.type)).map (TypeExpr.rename f)) =
      (distinctBy text ((first :: rest).map (·.type))).map (TypeExpr.rename f) :=
    distinctBy_rename hf (List.forall_mem_map.mpr hss)
  rw [arrayShape, arrayShape, Elements.of?_of_head hhead, Elements.of?, hall, htypes, hkept,
    Shape.type_rename, isArrayText_rename hf hfirst]
  split
  · show Shape.mk (.array (first.rename f).type) true false false (first.rename f).fields =
      (Shape.mk (.array first.type) true false false first.fields).rename f
    rw [Shape.rename_eq, Shape.rename_eq, rename_array]
  · exact union_rename f _

theorem pairsType_rename (hf : Faithful f P) (hstring : P "string" ∧ f "string" = "string")
    {t : TypeExpr} (ht : ∀ n ∈ t.names, P n) (g : String) :
    pairsType (f g) (t.rename f) = (pairsType g t).rename f := by
  have htext : (t.rename f).text = "string" ↔ t.text = "string" := by
    have h := text_rename_eq_iff hf ht (u := .name "string") (by simpa [names] using hstring.1)
    rw [TypeExpr.rename, hstring.2, text] at h
    exact h
  rw [pairsType, pairsType, rename_array]
  simp only [htext]
  split <;> rw [TypeExpr.rename]

theorem fieldShape_rename (f : String → String) (a b : Affixes) (nullable : List Path)
    (path : Path) (v : Json) (s : Shape) :
    fieldShape ⟨a, nullable⟩ path v (s.rename f) =
      (fieldShape ⟨b, nullable⟩ path v s).rename f := by
  rw [fieldShape, fieldShape]
  split
  · rw [Shape.rename_nullable]
  · rfl

end

section
variable {a : Affixes} {nullable : List Path} {r : Registry} {f : String → String}

theorem Renames.plain_rename (h : Renames a r f) {n : String} (hn : IsBasic n) (array opt : Bool) :
    (Shape.mk (.name n) array opt false []).rename f = Shape.mk (.name n) array opt false [] := by
  rw [Shape.rename_eq, TypeExpr.rename, h.basic n hn]
  rfl

theorem Renames.leafShape (h : Renames a r f) (v : Json) :
    (Infer.leafShape v).rename f = Infer.leafShape v := by
  rw [Infer.leafShape]
  split
  · exact h.plain_rename (.inl rfl) _ _
  · exact h.plain_rename (.inr ⟨_, rfl⟩) _ _

theorem Renames.emptyArray (h : Renames a r f) :
    Shape.emptyArray.rename f = Shape.emptyArray := by
  show (Shape.mk (.array .unknown) true true false []).rename f = _
  rw [Shape.rename_eq, rename_array, TypeExpr.unknown, TypeExpr.rename, h.basic _ (.inl rfl)]
  rfl

/-- the shape and the findings of a value, with affixes, are those without, renamed -/
def RenamedAt (a : Affixes) (nullable : List Path) (f : String → String) (path : Path)
    (v : Json) : Prop :=
  shapeAt ⟨a, nullable⟩ path v = (shapeAt ⟨{}, nullable⟩ path v).rename f ∧
    findings ⟨a, nullable⟩ path v = (findings ⟨{}, nullable⟩ path v).map (Finding.rename f)

/-- types of a value have known names only -/
theorem known_shapeAt {path : Path} {v : Json}
    (hr : ∀ x ∈ findings ⟨{}, nullable⟩ path v, r.Holds x) :
    ∀ n ∈ (shapeAt ⟨{}, nullable⟩ path v).type.names, r.Knows n :=
  (sound_shapeAt rfl r v path hr).1.self.formed.mem_names

theorem items_renamed {xs : List Json} {path : Path} (i : Nat)
    (ih : ∀ x ∈ xs, ∀ q, (∀ y ∈ findings ⟨{}, nullable⟩ q x, r.Holds y) →
      RenamedAt a nullable f q x)
    (hr : ∀ y ∈ itemFindings ⟨{}, nullable⟩ path i xs, r.Holds y) :
    itemShapesAt ⟨a, nullable⟩ path i xs =
        (itemShapesAt ⟨{}, nullable⟩ path i xs).map (Shape.rename f) ∧
      itemFindings ⟨a, nullable⟩ path i xs =
        (itemFindings ⟨{}, nullable⟩ path i xs).map (Finding.rename f) := by
  induction xs generalizing i with
  | nil => exact ⟨rfl, by rw [itemFindings, itemFindings, List.map_nil]⟩
  | cons x xs ihs =>
    rw [itemFindings, List.forall_mem_append] at hr
    obtain ⟨h1, h2⟩ := ih x List.mem_cons_self _ hr.1
    obtain ⟨h3, h4⟩ := ihs (i + 1) (fun y hy => ih y (List.mem_cons_of_mem _ hy)) hr.2
    rw [itemShapesAt, itemShapesAt, itemFindings, itemFindings, h1, h2, h3, h4, List.map_cons,
      List.map_append]
    exact ⟨rfl, rfl⟩

theorem known_items {xs : List Json} {path : Path} (i : Nat)
    (hr : ∀ y ∈ itemFindings ⟨{}, nullable⟩ path i xs, r.Holds y) :
    ∀ s ∈ itemShapesAt ⟨{}, nullable⟩ path i xs, ∀ n ∈ s.type.names, r.Knows n := by
  have hsound := (soundAt_items (fun x _ => sound_shapeAt rfl r x) path i hr).1
  exact fun s hs => (hsound s hs).self.formed.mem_names

theorem renamed_pairs (h : Renames a r f) {path : Path} (hd : ¬ maxDepth < path.length)
    {fs : Record} {v : Json} {rest : List Json} (hf : PairFields fs v)
    (hp : (Json.obj fs :: rest).all isIdValuePair = true)
    (hr : ∀ x ∈ findings ⟨{}, nullable⟩ (pairPath path 0) v, r.Holds x)
    (hgeneric : r.idValueName = some (Name.idValueName {}))
    (hv : RenamedAt a nullable f (pairPath path 0) v) :
    RenamedAt a nullable f path (.arr (.obj fs :: rest)) := by
  have hne : Json.obj fs :: rest ≠ [] := List.cons_ne_nil _ _
  have hg : Name.idValueName a = f (Name.idValueName {}) := (h.generic _ hgeneric).symm
  have hstring : IsBasic "string" := .inr ⟨.string, rfl⟩
  have htype := pairsType_rename h.faithful ⟨.inr (.inl hstring), h.basic _ hstring⟩
    (known_shapeAt hr) (Name.idValueName {})
  rw [RenamedAt, shapeAt_pairs hd hne hp, shapeAt_pairs hd hne hp, findings_pairs hd hne hp,
    findings_pairs hd hne hp, pairShapeAt_cons hf, pairShapeAt_cons hf, pairFindings_cons hf,
    pairFindings_cons hf, hv.1, hv.2, Shape.type_rename, hg, htype, List.map_append,
    Shape.rename_eq]
  exact ⟨rfl, rfl⟩

theorem renamed_record (h : Renames a r f) {path : Path} (hd : ¬ maxDepth < path.length)
    {fs : Record} (hdeclared : Name.recordName {} path ∈ r.names)
    (hbelow : ∀ p ∈ fs, RenamedAt a nullable f (path ++ [p.1]) p.2) :
    RenamedAt a nullable f path (.obj fs) := by
  have hname : f (Name.recordName {} path) = Name.recordName a path := by
    rw [h.record _ hdeclared, ← Name.recordName_eq_around]
  have hfields : fieldShapesAt ⟨a, nullable⟩ path fs =
      (fieldShapesAt ⟨{}, nullable⟩ path fs).map fun p => (p.1, p.2.rename f) := by
    rw [fieldShapesAt, fieldShapesAt, List.map_map]
    refine List.map_congr_left fun p hp => ?_
    rw [(hbelow p hp).1, fieldShape_rename f a {}]
    rfl
  have hfindings : (fs.flatMap fun p => findings ⟨a, nullable⟩ (path ++ [p.1]) p.2) =
      (fs.flatMap fun p => findings ⟨{}, nullable⟩ (path ++ [p.1]) p.2).map
        (Finding.rename f) := by
    rw [List.map_flatMap]
    exact List.flatMap_congr fun p hp => (hbelow p hp).2
  have hdecl : declarationAt ⟨a, nullable⟩ path fs =
      (declarationAt ⟨{}, nullable⟩ path fs).rename f := by
    rw [declarationAt, declarationAt, TypeDecl.rename, hfields, hname]
  rw [RenamedAt, shapeAt_record hd, shapeAt_record hd, findings_record hd, findings_record hd,
    hfindings, hdecl, hfields, List.map_append, Shape.rename_eq, TypeExpr.rename, hname]
  exact ⟨rfl, rfl⟩

/-- if a registry holds what is found for a value without affixes, shape and findings with affixes
are renamed -/
theorem renamed_findings (h : Renames a r f) (path : Path) (v : Json)
    (hr : ∀ x ∈ findings ⟨{}, nullable⟩ path v, r.Holds x) : RenamedAt a nullable f path v := by
  induction path, v using Infer.induction with
  | deep path v hd =>
    rw [RenamedAt, shapeAt_deep hd, shapeAt_deep hd, findings_deep hd, findings_deep hd]
    exact ⟨(h.plain_rename (.inl rfl) _ _).symm, rfl⟩
  | leaf path v hd hv =>
    rw [RenamedAt, shapeAt_leaf hd hv, shapeAt_leaf hd hv, findings_leaf hv, findings_leaf hv,
      h.leafShape]
    exact ⟨rfl, rfl⟩
  | empty path hd =>
    rw [RenamedAt, shapeAt_empty hd, shapeAt_empty hd, findings_empty, findings_empty,
      h.emptyArray]
    exact ⟨rfl, rfl⟩
  | pairs path xs hd hne hp ih =>
    obtain ⟨fs, v, rest, rfl, hf⟩ := exists_firstPair hne hp
    rw [findings_pairs hd hne hp, pairFindings_cons hf, List.forall_mem_append] at hr
    have hgeneric : r.idValueName = some (Name.idValueName {}) :=
      hr.2 (.generic (Name.idValueName {})) List.mem_cons_self
    have hv := ih fs v List.mem_cons_self hf (pairPath path 0) hr.1
    exact renamed_pairs h hd hf hp hr.1 hgeneric hv
  | items path xs hd hne hp ih =>
    rw [findings_items hd hp] at hr
    obtain ⟨h1, h2⟩ := items_renamed 0 ih hr
    have hshapes : itemShapesAt ⟨{}, nullable⟩ path 0 xs ≠ [] := by
      obtain ⟨x, rest, rfl⟩ := List.exists_cons_of_ne_nil hne
      exact List.cons_ne_nil _ _
    rw [RenamedAt, shapeAt_items hd hne hp, shapeAt_items hd hne hp, findings_items hd hp,
      findings_items hd hp, h1, h2, arrayShape_rename h.faithful hshapes (known_items 0 hr)]
    exact ⟨rfl, rfl⟩
  | record path fs hd ih =>
    rw [findings_record hd, List.forall_mem_append] at hr
    have hdeclared : Name.recordName {} path ∈ r.names :=
      hr.2 (.record (declarationAt ⟨{}, nullable⟩ path fs)) List.mem_cons_self
    exact renamed_record h hd hdeclared fun p hp => ih p hp (path ++ [p.1]) fun x hx =>
      hr.1 x (List.mem_flatMap.mpr ⟨p, hp, hx⟩)

end

/-! ## an inference with affixes -/

theorem dropLead_append (affix cs : List Char) : dropLead affix (affix ++ cs) = cs := by
  rw [dropLead, if_pos (List.isPrefixOf_iff_prefix.mpr (List.prefix_append affix cs)),
    List.drop_left]

theorem dropTrail_append (affix cs : List Char) : dropTrail affix (cs ++ affix) = cs := by
  rw [dropTrail, List.reverse_append, dropLead_append, List.reverse_reverse]

/-- the affixes of a name are taken off again, whatever the name -/
theorem bareWords_around (a : Affixes) (n : String) :
    bareWords a (a.around n) = spaced n.toList := by
  rw [bareWords, Affixes.around, String.toList_append, String.toList_append, List.append_assoc,
    dropLead_append, dropTrail_append]

theorem summary_around (a : Affixes) (n : String) : summary a (a.around n) = summary {} n := by
  have hnone : bareWords {} n = spaced n.toList := by
    have h := bareWords_around {} n
    rwa [Affixes.around_none] at h
  rw [summary, summary, bareWords_around, hnone]

section
variable {a : Affixes} {nullable : List Path} {path : Path} {v : Json}

theorem around_mem_names {n : String} (hn : n ∈ (infer ⟨{}, nullable⟩ path {} v).2.registry.names) :
    a.around n ∈ (infer ⟨a, nullable⟩ path {} v).2.registry.names := by
  obtain ⟨q, fs, hq, rfl⟩ := mem_names_infer.mp hn
  rw [← Name.recordName_eq_around]
  exact mem_names_infer.mpr ⟨q, fs, hq, rfl⟩

/-- with affixes the generic type is used exactly if it is without -/
theorem idValueName_infer_affixes :
    (infer ⟨a, nullable⟩ path {} v).2.registry.idValueName =
      (infer ⟨{}, nullable⟩ path {} v).2.registry.idValueName.map
        fun _ => Name.idValueName a := by
  rw [idValueName_infer, idValueName_infer]
  split <;> rfl

theorem renames_infer (ha : a.isPlain = true)
    (hbare : (infer ⟨{}, nullable⟩ path {} v).2.registry.Apart)
    (hnamed : (infer ⟨a, nullable⟩ path {} v).2.registry.Apart) :
    let r := (infer ⟨{}, nullable⟩ path {} v).2.registry
    Renames a r (r.renaming a) := by
  have hlayered : Layered ⟨{}, nullable⟩ (infer ⟨{}, nullable⟩ path {} v).2.registry := by
    rw [registry_infer]
    exact (Layered.empty _).takeAll rfl path v
  refine renames_renaming hlayered ha hbare fun g hg n hn e => ?_
  refine hnamed (Name.idValueName a) ?_ (e ▸ around_mem_names hn)
  rw [idValueName_infer_affixes, hg]
  rfl

end

/-- Affixes change names only.  If no record has the name of the generic type, neither without the
affixes nor with them, the shape and the registry of an inference with affixes are those of the one
without, with its records' names put between the affixes and the leading one put before the name of
the generic type; a type's summary, which is read off its name, stays as it is. -/
theorem infer_renamed {a : Affixes} (ha : a.isPlain = true) (nullable : List Path) (path : Path)
    (v : Json) (hbare : (infer ⟨{}, nullable⟩ path {} v).2.registry.Apart)
    (hnamed : (infer ⟨a, nullable⟩ path {} v).2.registry.Apart) :
    let bare := infer ⟨{}, nullable⟩ path {} v
    let named := infer ⟨a, nullable⟩ path {} v
    let f := bare.2.registry.renaming a
    named.1 = bare.1.rename f ∧ named.2.registry = bare.2.registry.rename f ∧
      named.2.registry.names = bare.2.registry.names.map a.around ∧
      ∀ n, summary a (a.around n) = summary {} n := by
  intro bare named f
  have hren : Renames a bare.2.registry f := renames_infer ha hbare hnamed
  have hreg : bare.2.registry = Registry.takeAll {} (findings ⟨{}, nullable⟩ path v) :=
    registry_infer _ path {} v
  have hholds : ∀ x ∈ findings ⟨{}, nullable⟩ path v, bare.2.registry.Holds x := by
    rw [hreg]
    exact holds_takeAll (.inl rfl) eq_idValueName_of_mem
  obtain ⟨hshape, hfindings⟩ := renamed_findings hren path v hholds
  have hkeys : ∀ x ∈ findings ⟨{}, nullable⟩ path v, ∀ n, x.key = some n →
      bare.2.registry.Knows n := by
    intro x hx n hn
    cases x with
    | record d =>
      obtain rfl := Option.some.inj hn
      exact .inl (hholds (.record d) hx)
    | generic g => simp [Finding.key] at hn
  have hregistry : named.2.registry = bare.2.registry.rename f := by
    show (infer ⟨a, nullable⟩ path {} v).2.registry = _
    rw [registry_infer, hfindings, hreg]
    have hnone : ∀ n ∈ ({} : Registry).names, bare.2.registry.Knows n := by simp [Registry.names]
    exact Registry.takeAll_rename hren.faithful hnone hkeys
  refine ⟨?_, hregistry, ?_, summary_around a⟩
  · exact (shape_infer _ path {} v).trans hshape
  · rw [hregistry, Registry.names_rename]
    exact List.map_congr_left fun n hn => hren.record n hn

/-- an array of records, one of them with pairs, and a field that was null in some records -/
theorem infer_renamed_pairs :
    let a : Affixes := ⟨"P_", "$"⟩
    let nullable : List Path := [["b"]]
    let v : Json := .obj [("a", .arr [.obj [("x", .int 1)], .obj [("x", .str "y"),
      ("c", .arr [.obj [("id", .str "i"), ("value", .bool true)]])]]), ("b", .obj [])]
    let bare := infer ⟨{}, nullable⟩ [] {} v
    let named := infer ⟨a, nullable⟩ [] {} v
    a.isPlain = true ∧ bare.2.registry.Apart ∧ named.2.registry.Apart ∧
      bare.2.registry.names = ["A", "B", "Hit"] ∧
      named.2.registry.names = ["P_A$", "P_B$", "P_Hit$"] ∧
      named.2.registry = bare.2.registry.rename (bare.2.registry.renaming a) := by
  intro a nullable v bare named
  have ha : a.isPlain = true := by decide
  have hbare : (infer ⟨{}, nullable⟩ [] {} v).2.registry.Apart := by decide
  have hnamed : (infer ⟨a, nullable⟩ [] {} v).2.registry.Apart := by decide
  obtain ⟨_, hregistry, hnames, _⟩ := infer_renamed ha nullable [] v hbare hnamed
  have hbareNames : bare.2.registry.names = ["A", "B", "Hit"] := by decide
  refine ⟨ha, hbare, hnamed, hbareNames, ?_, hregistry⟩
  rw [hnames, hbareNames]
  decide

end Infer

end SampleTypes
