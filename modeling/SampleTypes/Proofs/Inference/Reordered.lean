import SampleTypes.Proofs.Inference.Conforms
import SampleTypes.Proofs.Inference.Visits
import SampleTypes.Proofs.Shape.Alike

/-!
# The order of fields does not count

With the fields of records in another order an inference visits the same places in another order,
so another record may be the one that is declared under a name.  Shapes and names do not depend on
it, and the texts of declarations do not if records of one name have the same fields.

* `alike_shapeAt`          the shapes of values alike are alike;
* `matched_visits`         where one value is visited, the other one is, with a value alike;
* `d.faces`                what the text of a declaration shows of the fields, by key;
* `interfaceText_of_perm`  it does not depend on their order;
* `Agree s visited`        visited records of one name show the same;
* `infer_reordered`        what two inferences of values alike have in common.
-/

namespace SampleTypes

open Declaration

namespace Infer

section
variable {s : Settings}

/-! ## shapes -/

theorem outline_of_alike {s t : Shape} (h : s.Alike t) : s.outline = t.outline := by
  obtain ⟨htype, harray, _, _, hs, hfields, hperm⟩ := Shape.alike_iff.mp h
  rw [Shape.outline, Shape.outline, htype, harray, hfields.length_eq, hperm.length_eq]

theorem alike_arrayShape {ss ts : List Shape} (h : List.Forall₂ Shape.Alike ss ts) :
    (arrayShape ss).Alike (arrayShape ts) := by
  cases h with
  | nil => exact Shape.Alike.refl _
  | @cons a b ss ts hab hst =>
    have hcons : List.Forall₂ Shape.Alike (a :: ss) (b :: ts) := .cons hab hst
    have houtline : (a :: ss).map Shape.outline = (b :: ts).map Shape.outline :=
      map_eq_of_forall₂ (fun _ _ h => outline_of_alike h) hcons
    have htypes : (a :: ss).map (·.type) = (b :: ts).map (·.type) :=
      map_eq_of_forall₂ (fun _ _ h => h.type_eq) hcons
    have hall : (a :: ss).all (Elements.agrees a) = (b :: ts).all (Elements.agrees b) := by
      rw [Elements.all_agrees, Elements.all_agrees, houtline, outline_of_alike hab]
    rw [arrayShape, arrayShape, Elements.of?, Elements.of?, hall, htypes, hab.type_eq]
    split
    · obtain ⟨_, _, _, _, hfields⟩ := Shape.alike_iff.mp hab
      refine Shape.alike_iff.mpr ⟨?_, rfl, rfl, rfl, hfields⟩
      exact congrArg TypeExpr.array hab.type_eq
    · exact Shape.Alike.refl _

theorem alike_itemShapesAt {xs ys : List Json} (h : List.Forall₂ Json.Alike xs ys)
    (ih : ∀ x ∈ xs, ∀ q y, Json.Alike x y → (shapeAt s q x).Alike (shapeAt s q y)) (path : Path)
    (i : Nat) :
    List.Forall₂ Shape.Alike (itemShapesAt s path i xs) (itemShapesAt s path i ys) := by
  induction h generalizing i with
  | nil => exact .nil
  | cons hx _ ihs =>
    obtain ⟨hfirst, hrest⟩ := List.forall_mem_cons.mp ih
    exact .cons (hfirst _ _ hx) (ihs hrest (i + 1))

theorem alike_fieldShapesAt {fs hs gs : Record} (h : List.Forall₂ Json.AlikeField fs hs)
    (hp : hs.Perm gs)
    (ih : ∀ p ∈ fs, ∀ q w, Json.Alike p.2 w → (shapeAt s q p.2).Alike (shapeAt s q w))
    (path : Path) : ∃ ts, List.Forall₂ Shape.AlikeField (fieldShapesAt s path fs) ts ∧
      ts.Perm (fieldShapesAt s path gs) := by
  refine ⟨fieldShapesAt s path hs, ?_, hp.map _⟩
  clear hp
  induction h with
  | nil => exact .nil
  | @cons p q _ _ hpq _ ihs =>
    obtain ⟨k, v⟩ := p
    obtain ⟨j, w⟩ := q
    obtain ⟨rfl, hvw⟩ : k = j ∧ Json.Alike v w := hpq
    obtain ⟨hfirst, hrest⟩ := List.forall_mem_cons.mp ih
    refine .cons ⟨rfl, ?_⟩ (ihs hrest)
    have hshape := hfirst (path ++ [k]) w hvw
    show (fieldShape s _ v _).Alike (fieldShape s _ w _)
    rw [fieldShape, fieldShape, hvw.isNull]
    split
    · exact hshape.nullable
    · exact hshape

/-- the shapes of values alike are alike -/
theorem alike_shapeAt {v w : Json} (h : Json.Alike v w) (path : Path) :
    (shapeAt s path v).Alike (shapeAt s path w) := by
  induction path, v using Infer.induction generalizing w with
  | deep path v hd =>
    rw [shapeAt_deep hd, shapeAt_deep hd]
    exact Shape.Alike.refl _
  | leaf path v hd hv =>
    obtain ⟨hw, e⟩ := leafShape_of_alike h hv
    rw [shapeAt_leaf hd hv, shapeAt_leaf hd hw, e]
    exact Shape.Alike.refl _
  | empty path hd =>
    obtain ⟨ys, rfl, hxs⟩ := Json.alike_arr_iff.mp h
    obtain rfl := List.forall₂_nil_left_iff.mp hxs
    exact Shape.Alike.refl _
  | pairs path xs hd hne hp ih =>
    obtain ⟨ys, rfl, hxs⟩ := Json.alike_arr_iff.mp h
    obtain ⟨hne', hall⟩ := pairs_of_alike hxs hne
    rw [hp] at hall
    obtain ⟨fs, v, rest, gs, w, rest', rfl, hf, rfl, hg, hvw⟩ := exists_firstPairs hxs hne hp
    have hvalue := ih fs v List.mem_cons_self hf (pairPath path 0) hvw
    rw [shapeAt_pairs hd hne hp, shapeAt_pairs hd hne' hall.symm, pairShapeAt_cons hf,
      pairShapeAt_cons hg, hvalue.type_eq]
    exact Shape.Alike.refl _
  | items path xs hd hne hp ih =>
    obtain ⟨ys, rfl, hxs⟩ := Json.alike_arr_iff.mp h
    obtain ⟨hne', hall⟩ := pairs_of_alike hxs hne
    rw [hp] at hall
    rw [shapeAt_items hd hne hp, shapeAt_items hd hne' hall.symm]
    exact alike_arrayShape (alike_itemShapesAt hxs (fun x hx q y hxy => ih x hx q hxy) path 0)
  | record path fs hd ih =>
    obtain ⟨gs, hs, rfl, hfs, hperm⟩ := Json.alike_obj_iff.mp h
    rw [shapeAt_record hd, shapeAt_record hd]
    refine Shape.alike_iff.mpr ⟨rfl, rfl, rfl, rfl, ?_⟩
    exact alike_fieldShapesAt hfs hperm (fun p hp q w hpw => ih p hp q hpw) path

/-! ## visited values -/

/-- at the same places, values alike -/
def Matched (visited visited' : List (Path × Json)) : Prop :=
  ∀ x ∈ visited, ∃ y ∈ visited', x.1 = y.1 ∧ Json.Alike x.2 y.2

theorem Matched.append {a b c d : List (Path × Json)} (hab : Matched a b) (hcd : Matched c d) :
    Matched (a ++ c) (b ++ d) := by
  intro x hx
  rcases List.mem_append.mp hx with hx | hx
  · obtain ⟨y, hy, h⟩ := hab x hx
    exact ⟨y, List.mem_append_left _ hy, h⟩
  · obtain ⟨y, hy, h⟩ := hcd x hx
    exact ⟨y, List.mem_append_right _ hy, h⟩

theorem Matched.single (path : Path) {v w : Json} (h : Json.Alike v w) :
    Matched [(path, v)] [(path, w)] := by
  intro x hx
  obtain rfl := List.mem_singleton.mp hx
  exact ⟨(path, w), List.mem_singleton_self _, rfl, h⟩

theorem matched_items {xs ys : List Json} (h : List.Forall₂ Json.Alike xs ys)
    (ih : ∀ x ∈ xs, ∀ q y, Json.Alike x y → Matched (visits q x) (visits q y)) (path : Path)
    (i : Nat) : Matched (itemVisits path i xs) (itemVisits path i ys) := by
  induction h generalizing i with
  | nil =>
    rw [itemVisits]
    simp [Matched]
  | cons hx _ ihs =>
    obtain ⟨hfirst, hrest⟩ := List.forall_mem_cons.mp ih
    rw [itemVisits, itemVisits]
    exact (hfirst _ _ hx).append (ihs hrest (i + 1))

theorem matched_fields {fs hs gs : Record} (h : List.Forall₂ Json.AlikeField fs hs)
    (hp : hs.Perm gs)
    (ih : ∀ p ∈ fs, ∀ q w, Json.Alike p.2 w → Matched (visits q p.2) (visits q w))
    (path : Path) : Matched (fieldVisits path fs) (fieldVisits path gs) := by
  rw [fieldVisits_eq_flatMap, fieldVisits_eq_flatMap]
  intro x hx
  obtain ⟨p, hpfs, hx⟩ := List.mem_flatMap.mp hx
  obtain ⟨q, hq, hkey, hpq⟩ := Json.exists_alikeField_of_mem h hp hpfs
  rw [hkey] at hx
  obtain ⟨y, hy, hxy⟩ := ih p hpfs (path ++ [q.1]) q.2 hpq x hx
  exact ⟨y, List.mem_flatMap.mpr ⟨q, hq, hy⟩, hxy⟩

/-- values alike are visited at the same places, where they have values alike -/
theorem matched_visits {v w : Json} (h : Json.Alike v w) (path : Path) :
    Matched (visits path v) (visits path w) := by
  induction path, v using Infer.induction generalizing w with
  | deep path v hd =>
    rw [visits_deep hd]
    simp [Matched]
  | leaf path v hd hv =>
    obtain ⟨hw, _⟩ := leafShape_of_alike h hv
    rw [visits_leaf hd hv, visits_leaf hd hw]
    exact .single path h
  | empty path hd =>
    obtain ⟨ys, rfl, hxs⟩ := Json.alike_arr_iff.mp h
    obtain rfl := List.forall₂_nil_left_iff.mp hxs
    rw [visits, if_neg hd]
    exact .single path h
  | pairs path xs hd hne hp ih =>
    obtain ⟨ys, rfl, hxs⟩ := Json.alike_arr_iff.mp h
    obtain ⟨_, hall⟩ := pairs_of_alike hxs hne
    rw [hp] at hall
    obtain ⟨fs, v, rest, gs, w, rest', rfl, hf, rfl, hg, hvw⟩ := exists_firstPairs hxs hne hp
    rw [visits_pairs hd hf hp, visits_pairs hd hg hall.symm]
    exact (ih fs v List.mem_cons_self hf (pairPath path 0) hvw).append (.single path h)
  | items path xs hd hne hp ih =>
    obtain ⟨ys, rfl, hxs⟩ := Json.alike_arr_iff.mp h
    obtain ⟨_, hall⟩ := pairs_of_alike hxs hne
    rw [hp] at hall
    rw [visits_items hd hp, visits_items hd hall.symm]
    have hitems := matched_items hxs (fun x hx q y hxy => ih x hx q hxy) path 0
    exact hitems.append (.single path h)
  | record path fs hd ih =>
    obtain ⟨gs, hs, rfl, hfs, hperm⟩ := Json.alike_obj_iff.mp h
    rw [visits_record hd, visits_record hd]
    have hfields := matched_fields hfs hperm (fun p hp q w hpw => ih p hp q hpw) path
    exact hfields.append (.single path h)

end

end Infer

/-! ## the texts of declarations -/

/-- what the text of a declaration shows of the fields, by key -/
def TypeDecl.faces (d : TypeDecl) : List (String × String × Bool × Bool × Bool) :=
  d.fields.map fun f => (f.1, f.2.face)

/-- the line of a field, from what it shows -/
def Declaration.faceLine (key : String) (face : String × Bool × Bool × Bool) : String :=
  fieldLine key ⟨.name face.1, face.2.1, face.2.2.1, face.2.2.2, []⟩

theorem fieldLine_eq_faceLine (key : String) (s : Shape) :
    fieldLine key s = faceLine key s.face := by
  have htype : arrayType s = arrayType ⟨.name s.type.text, s.isArray, s.isOptional, s.isNullable,
      []⟩ := by
    rw [arrayType, arrayType, TypeExpr.isArrayText, TypeExpr.isArrayText, TypeExpr.text]
  rw [faceLine, Shape.face, fieldLine, fieldLine, fieldType, fieldType, htype]
  rfl

theorem fieldLines_eq_faces (d : TypeDecl) :
    fieldLines d.fields = (Fields.sorted d.faces).map fun f => faceLine f.1 f.2 := by
  rw [TypeDecl.faces, Fields.sorted_map, List.map_map, fieldLines]
  exact List.map_congr_left fun f _ => fieldLine_eq_faceLine f.1 f.2

theorem names_faces (d : TypeDecl) : Fields.names d.faces = Fields.names d.fields := by
  rw [Fields.names, TypeDecl.faces, List.map_map]
  rfl

/-- the order of the fields does not count for the text of a declaration -/
theorem interfaceText_of_perm {d e : TypeDecl} (hn : (Fields.names d.fields).Nodup)
    (h : d.faces.Perm e.faces) (name : String) :
    interfaceText name d.fields = interfaceText name e.fields := by
  rw [← names_faces] at hn
  have hsorted : Fields.sorted d.faces = Fields.sorted e.faces := Fields.sorted_eq_of_perm hn h
  rw [interfaceText, interfaceText, fieldLines_eq_faces d, fieldLines_eq_faces e, hsorted]

namespace Infer

/-- visited records of one name show the same fields, whatever their order -/
def Agree (s : Settings) (visited : List (Path × Json)) : Prop :=
  ∀ d ∈ visited.filterMap (declaration? s), ∀ e ∈ visited.filterMap (declaration? s),
    d.name = e.name → d.faces.Perm e.faces

instance (s : Settings) (visited : List (Path × Json)) : Decidable (Agree s visited) :=
  inferInstanceAs (Decidable (∀ d ∈ visited.filterMap (declaration? s),
    ∀ e ∈ visited.filterMap (declaration? s), d.name = e.name → d.faces.Perm e.faces))

section
variable {s : Settings}

theorem face_of_alike {s t : Shape} (h : s.Alike t) : s.face = t.face := by
  obtain ⟨htype, harray, hopt, hnull, _⟩ := Shape.alike_iff.mp h
  rw [Shape.face, Shape.face, htype, harray, hopt, hnull]

/-- records alike show the same fields -/
theorem perm_faces {fs gs : Record} (h : Json.Alike (.obj fs) (.obj gs)) (path : Path) :
    (declarationAt s path fs).faces.Perm (declarationAt s path gs).faces := by
  obtain ⟨_, hs, e, hfs, hperm⟩ := Json.alike_obj_iff.mp h
  obtain rfl := Json.obj.inj e
  obtain ⟨ts, hts, hperm⟩ := alike_fieldShapesAt hfs hperm
    (fun p _ q w hpw => alike_shapeAt (s := s) hpw q) path
  have hfaces : (fieldShapesAt s path fs).map (fun f => (f.1, f.2.face)) =
      ts.map fun f => (f.1, f.2.face) :=
    map_eq_of_forall₂ (fun f g hfg => Prod.ext hfg.1 (face_of_alike hfg.2)) hts
  show ((fieldShapesAt s path fs).map fun f => (f.1, f.2.face)).Perm _
  rw [hfaces]
  exact hperm.map _

theorem names_fieldShapesAt (path : Path) (fs : Record) :
    Fields.names (fieldShapesAt s path fs) = Fields.names fs := by
  rw [Fields.names, fieldShapesAt, List.map_map]
  rfl

theorem keysDistinct_of_mem_visits {path : Path} {v : Json} (hv : v.keysDistinct = true) :
    ∀ x ∈ visits path v, x.2.keysDistinct = true := by
  induction path, v using Infer.induction with
  | deep path v hd =>
    rw [visits_deep hd]
    simp
  | leaf path v hd hleaf =>
    rw [visits_leaf hd hleaf]
    exact List.forall_mem_singleton.mpr hv
  | empty path hd =>
    rw [visits, if_neg hd]
    exact List.forall_mem_singleton.mpr hv
  | pairs path xs hd hne hp ih =>
    obtain ⟨fs, v, rest, rfl, hf⟩ := exists_firstPair hne hp
    have hrecord := Json.keysDistinct_of_mem_items hv List.mem_cons_self
    have hvalue : v.keysDistinct = true := Json.keysDistinct_of_mem_fields hrecord hf.mem
    rw [visits_pairs hd hf hp]
    exact List.forall_mem_append.mpr
      ⟨ih fs v List.mem_cons_self hf _ hvalue, List.forall_mem_singleton.mpr hv⟩
  | items path xs hd hne hp ih =>
    rw [visits_items hd hp]
    refine List.forall_mem_append.mpr ⟨forall_mem_itemVisits (fun x hx i => ?_) 0,
      List.forall_mem_singleton.mpr hv⟩
    exact ih x hx _ (Json.keysDistinct_of_mem_items hv hx)
  | record path fs hd ih =>
    rw [visits_record hd, fieldVisits_eq_flatMap]
    refine List.forall_mem_append.mpr ⟨fun x hx => ?_, List.forall_mem_singleton.mpr hv⟩
    obtain ⟨p, hp, hx⟩ := List.mem_flatMap.mp hx
    exact ih p hp _ (Json.keysDistinct_of_mem_fields hv hp) x hx

/-! ## inferences -/

theorem names_subset {v w : Json} (h : Json.Alike v w) (path : Path) :
    (infer s path {} v).2.registry.names ⊆ (infer s path {} w).2.registry.names := by
  intro n hn
  obtain ⟨q, fs, hq, rfl⟩ := mem_names_infer.mp hn
  obtain ⟨⟨_, w⟩, hy, rfl, hw⟩ := matched_visits h path _ hq
  obtain ⟨gs, _, rfl, _, _⟩ := Json.alike_obj_iff.mp hw
  exact mem_names_infer.mpr ⟨q, gs, hy, rfl⟩

theorem isPairs_of_alike {v w : Json} (h : Json.Alike v w) (hv : v.isPairs = true) :
    w.isPairs = true := by
  cases v with
  | arr xs =>
    obtain ⟨ys, rfl, hxs⟩ := Json.alike_arr_iff.mp h
    rw [Json.isPairs, Bool.and_eq_true, Bool.not_eq_true', List.isEmpty_eq_false_iff] at hv ⊢
    obtain ⟨hne, hall⟩ := pairs_of_alike hxs hv.1
    exact ⟨hne, hall ▸ hv.2⟩
  | null | bool | int | float | str | obj => exact Bool.noConfusion hv

theorem idValueName_of_alike {v w : Json} (h : Json.Alike v w) (path : Path) :
    (infer s path {} v).2.registry.idValueName = (infer s path {} w).2.registry.idValueName := by
  have half : ∀ {v w : Json}, Json.Alike v w → (visits path v).any (·.2.isPairs) = true →
      (visits path w).any (·.2.isPairs) = true := by
    intro v w h hv
    obtain ⟨x, hx, hpairs⟩ := List.any_eq_true.mp hv
    obtain ⟨y, hy, _, hxy⟩ := matched_visits h path x hx
    exact List.any_eq_true.mpr ⟨y, hy, isPairs_of_alike hxy hpairs⟩
  have hany : (visits path v).any (·.2.isPairs) = (visits path w).any (·.2.isPairs) :=
    Bool.eq_iff_iff.mpr ⟨half h, half h.symm⟩
  rw [idValueName_infer, idValueName_infer, hany]

theorem exists_visit_of_get? {path : Path} {v : Json} {n : String} {d : TypeDecl}
    (h : (infer s path {} v).2.registry.get? n = some d) :
    d.name = n ∧ ∃ q fs, (q, .obj fs) ∈ visits path v ∧ d = declarationAt s q fs := by
  have hname : (d.name == n) = true := List.find?_some (p := fun d : TypeDecl => d.name == n) h
  exact ⟨eq_of_beq hname, exists_visit_of_mem_declarations (List.mem_of_find?_eq_some h)⟩

/-- the texts of two declarations of one name, of values alike -/
theorem body_of_alike {path : Path} {v w : Json} (h : Json.Alike v w)
    (hkeys : v.keysDistinct = true) (hagree : Agree s (visits path v)) {n : String}
    {d e : TypeDecl} (hd : (infer s path {} v).2.registry.get? n = some d)
    (he : (infer s path {} w).2.registry.get? n = some e) : d.body = e.body := by
  obtain ⟨hdn, p, fs, hp, rfl⟩ := exists_visit_of_get? hd
  obtain ⟨hen, q, gs, hq, rfl⟩ := exists_visit_of_get? he
  -- the record declared for `w` stands in `v` too, in another order
  obtain ⟨⟨_, u⟩, hu, rfl, hgu⟩ := matched_visits h.symm path _ hq
  obtain ⟨hs, _, rfl, _, _⟩ := Json.alike_obj_iff.mp hgu
  have hmem : ∀ {p fs}, (p, Json.obj fs) ∈ visits path v →
      declarationAt s p fs ∈ (visits path v).filterMap (declaration? s) :=
    fun hm => List.mem_filterMap.mpr ⟨_, hm, rfl⟩
  have hsame := hagree _ (hmem hp) _ (hmem hu) (hdn.trans hen.symm)
  have hother := perm_faces (s := s) hgu q
  have hnames : (Fields.names (fieldShapesAt s p fs)).Nodup := by
    rw [names_fieldShapesAt]
    exact Json.nodup_names_of_keysDistinct (keysDistinct_of_mem_visits hkeys _ hp)
  show interfaceText (declarationAt s p fs).name _ = interfaceText (declarationAt s q gs).name _
  rw [hdn, hen]
  exact interfaceText_of_perm hnames (hsame.trans hother.symm) n

end

/-- The order of fields does not count.  Inferring two values that are equal up to it gives shapes
that are, of one type, and registers the same names and the same generic type; if no record has a
key twice and records of one name show the same fields, every name has the same declaration. -/
theorem infer_reordered {v w : Json} (h : Json.Alike v w) (s : Settings) (path : Path) :
    let a := infer s path {} v
    let b := infer s path {} w
    a.1.type = b.1.type ∧ a.1.Alike b.1 ∧
      (∀ n, n ∈ a.2.registry.names ↔ n ∈ b.2.registry.names) ∧
      a.2.registry.idValueName = b.2.registry.idValueName ∧
      (v.keysDistinct = true → Agree s (visits path v) →
        ∀ n, (a.2.registry.get? n).map (·.body) = (b.2.registry.get? n).map (·.body)) := by
  intro a b
  have hshape : a.1.Alike b.1 := by
    show (infer s path {} v).1.Alike (infer s path {} w).1
    rw [shape_infer, shape_infer]
    exact alike_shapeAt h path
  have hnames : ∀ n, n ∈ a.2.registry.names ↔ n ∈ b.2.registry.names := fun n =>
    ⟨fun hn => names_subset h path hn, fun hn => names_subset h.symm path hn⟩
  refine ⟨hshape.type_eq, hshape, hnames, idValueName_of_alike h path, fun hkeys hagree n => ?_⟩
  have hsome : (a.2.registry.get? n).isSome = (b.2.registry.get? n).isSome := by
    rw [Registry.isSome_get?, Registry.isSome_get?, Bool.eq_iff_iff,
      Registry.contains_eq_true_iff, Registry.contains_eq_true_iff]
    exact hnames n
  cases hd : a.2.registry.get? n with
  | none =>
    rw [hd] at hsome
    cases he : b.2.registry.get? n with
    | none => rfl
    | some e => simp [he] at hsome
  | some d =>
    rw [hd] at hsome
    cases he : b.2.registry.get? n with
    | none => simp [he] at hsome
    | some e => exact congrArg some (body_of_alike h hkeys hagree hd he)

/-- two records of one name; another one is declared if the keys change places -/
theorem infer_reordered_keys :
    let one : Record := [("x", .int 1), ("y", .str "s")]
    let two : Record := [("y", .str "s"), ("x", .int 1)]
    let v : Json := .obj [("a", .obj [("k", .obj one)]), ("b", .obj [("k", .obj one)])]
    let w : Json := .obj [("b", .obj [("k", .obj one)]), ("a", .obj [("k", .obj two)])]
    let a := infer {} [] {} v
    let b := infer {} [] {} w
    Json.Alike v w ∧ v.keysDistinct = true ∧ Agree {} (visits [] v) ∧
      a.2.registry.names = ["K", "A", "B", "Hit"] ∧ b.2.registry.names = ["K", "B", "A", "Hit"] ∧
      ∀ n, (a.2.registry.get? n).map (·.body) = (b.2.registry.get? n).map (·.body) := by
  intro one two v w a b
  have hk : Json.Alike (.obj one) (.obj two) := Json.alike_of_perm (List.Perm.swap _ _ [])
  have ha : Json.Alike (.obj [("k", .obj one)]) (.obj [("k", .obj two)]) :=
    Json.alike_obj_iff.mpr ⟨_, [("k", .obj two)], rfl, .cons ⟨rfl, hk⟩ .nil, List.Perm.refl _⟩
  have hvw : Json.Alike v w := by
    let fields : Record := [("a", .obj [("k", .obj two)]), ("b", .obj [("k", .obj one)])]
    refine Json.alike_obj_iff.mpr ⟨_, fields, rfl, ?_, List.Perm.swap _ _ []⟩
    exact .cons ⟨rfl, ha⟩ (.cons ⟨rfl, .refl _⟩ .nil)
  have hkeys : v.keysDistinct = true := by decide
  have hagree : Agree {} (visits [] v) := by decide
  obtain ⟨_, _, _, _, hbodies⟩ := infer_reordered hvw {} []
  exact ⟨hvw, hkeys, hagree, by decide, by decide, hbodies hkeys hagree⟩

end Infer

end SampleTypes
