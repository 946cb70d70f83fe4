import SampleTypes.Proofs.Inference.Conforms

/-!
# The kinds of the values of pairs

The type of an array of pairs is read off the value of its first pair.  When the values are scalars
it fits exactly the pairs whose values are of the kind of the first one, wherever they stand; on a
path that leaves no room for the value it is unknown, and fits all of them.

* `pairsText g T`            the written type of the arrays of pairs with values of the kind `T`;
* `conforms_element_iff`     the pairs that fit the type of the items;
* `pairs_typed_by_first`     the main statement.
-/

namespace SampleTypes

/-! ## what conforms to a type of a given form -/

section
variable {r : Registry}

theorem conforms_array_iff {xs : List Json} {t : TypeExpr} :
    Conforms r (.arr xs) (.array t) ↔ ∀ x ∈ xs, Conforms r x t := by
  refine ⟨fun h => ?_, .array⟩
  cases h with
  | array h => exact h

/-- the generic type at a type is that of the pairs with values of this type -/
theorem conforms_apply_iff {fs : Record} {v : Json} (hf : PairFields fs v) {g : String}
    {t : TypeExpr} :
    Conforms r (.obj fs) (.apply g t) ↔ r.idValueName = some g ∧ Conforms r v t := by
  refine ⟨fun h => ?_, fun h => .pair h.1 hf h.2⟩
  cases h with
  | pair hg hf' h => exact ⟨hg, hf.value_unique hf' ▸ h⟩

/-- the generic type alone is that of the pairs with a text -/
theorem conforms_generic_iff {fs : Record} {v : Json} (hf : PairFields fs v) {g : String}
    (hg : r.idValueName = some g) (hu : g ≠ "unknown") :
    Conforms r (.obj fs) (.name g) ↔ ∃ t, v = .str t := by
  constructor
  · intro h
    generalize e : TypeExpr.name g = u at h
    cases h with
    | unknown => exact absurd (TypeExpr.name.inj e) hu
    | textPair _ hf' => exact ⟨_, hf.value_unique hf'⟩
    | record _ _ generic => exact absurd (TypeExpr.name.inj e ▸ hg) generic
    | alternative | pair => exact TypeExpr.noConfusion e
  · rintro ⟨t, rfl⟩
    exact .textPair hg hf

end

namespace Infer

/-! ## the type of the items -/

/-- the type of the pairs with values of the type `t` -/
def elementType (generic : String) (t : TypeExpr) : TypeExpr :=
  if t.text = "string" then .name generic else .apply generic t

theorem pairsType_eq (g : String) (t : TypeExpr) : pairsType g t = .array (elementType g t) := rfl

/-- how the generic type is applied to a basic one; texts go without saying -/
def argumentText : Primitive → String
  | .string => ""
  | T => "<" ++ T.name ++ ">"

/-- the written type of the arrays of pairs with values of one kind -/
def pairsText (generic : String) (T : Primitive) : String := generic ++ argumentText T ++ "[]"

theorem text_apply_name (g n : String) :
    (TypeExpr.apply g (.name n)).text = g ++ ("<" ++ n ++ ">") := by
  rw [TypeExpr.text, TypeExpr.text, ← String.append_assoc, ← String.append_assoc]

theorem text_pairsType (g : String) (T : Primitive) :
    (pairsType g (.name T.name)).text = pairsText g T := by
  cases T with
  | string =>
    rw [pairsType_eq, elementType, if_pos (by decide), TypeExpr.text, TypeExpr.text, pairsText,
      argumentText, String.append_empty]
  | number | boolean =>
    rw [pairsType_eq, elementType, if_neg (by decide), TypeExpr.text_array, text_apply_name]
    rfl

theorem text_pairsType_unknown (g : String) :
    (pairsType g .unknown).text = g ++ "<unknown>" ++ "[]" := by
  have harg : "<unknown>" = "<" ++ "unknown" ++ ">" := by decide
  rw [pairsType_eq, elementType, if_neg (by decide), TypeExpr.text_array, harg]
  exact congrArg (· ++ "[]") (text_apply_name g "unknown")

theorem pairsText_inj {g : String} {T U : Primitive} (h : pairsText g T = pairsText g U) :
    T = U := by
  have harg : argumentText T = argumentText U :=
    (String.append_right_inj g).mp ((String.append_left_inj "[]").mp h)
  cases T <;> cases U <;> first | rfl | exact absurd harg (by decide)

/-- with values of a basic type, the items are the pairs whose values are of this kind -/
theorem conforms_element_iff {r : Registry} {a : Affixes}
    (hr : r.idValueName = some (Name.idValueName a)) {fs : Record} {v : Json}
    (hf : PairFields fs v) (hv : v.isScalar = true) (T : Primitive) :
    Conforms r (.obj fs) (elementType (Name.idValueName a) (.name T.name)) ↔
      Primitive.of v = T := by
  have hbasic : ∀ U : Primitive, r.idValueName ≠ some U.name := by
    intro U e
    rw [hr] at e
    exact Name.idValueName_ne (by cases U <;> decide) (Option.some.inj e)
  cases T with
  | string =>
    have hu : Name.idValueName a ≠ "unknown" := Name.idValueName_ne (by decide)
    rw [elementType, if_pos (by decide), conforms_generic_iff hf hr hu]
    refine ⟨?_, exists_text_of_kind hv⟩
    rintro ⟨t, rfl⟩
    rfl
  | number | boolean =>
    rw [elementType, if_neg (by decide), conforms_apply_iff hf, conforms_basic_iff (hbasic _)]
    exact ⟨fun h => h.2.2, fun h => ⟨hr, hv, h⟩⟩

/-! ## arrays of pairs -/

section
variable {s : Settings} {path : Path} {fs : Record} {first : Json} {rest : List Json}

/-- the type of the value of the first pair: its kind, if there is room for it -/
theorem type_pairShapeAt (hf : PairFields fs first) (hv : first.isScalar = true) :
    (pairShapeAt s path (.obj fs :: rest)).type =
      if path.length + 2 ≤ maxDepth then .name (Primitive.of first).name else .unknown := by
  have hlen : (pairPath path 0).length = path.length + 2 := List.length_append
  obtain ⟨hleaf, hnull⟩ := Json.isScalar_iff.mp hv
  rw [pairShapeAt_cons hf]
  by_cases hroom : path.length + 2 ≤ maxDepth
  · have hd : ¬ maxDepth < (pairPath path 0).length := by omega
    rw [shapeAt_leaf hd hleaf, leafShape, hnull, if_pos hroom]
    rfl
  · have hd : maxDepth < (pairPath path 0).length := by omega
    rw [shapeAt_deep hd, if_neg hroom]
    rfl

/-- an array of pairs whose first value is a scalar brings the generic type and nothing else -/
theorem registry_infer_pairs (hd : ¬ maxDepth < path.length) (hf : PairFields fs first)
    (hv : first.isScalar = true) (hp : (Json.obj fs :: rest).all isIdValuePair = true) :
    (infer s path {} (.arr (.obj fs :: rest))).2.registry =
      ⟨[], some (Name.idValueName s.affixes)⟩ := by
  obtain ⟨hleaf, _⟩ := Json.isScalar_iff.mp hv
  rw [registry_infer, findings_pairs hd (List.cons_ne_nil _ _) hp, pairFindings_cons hf,
    findings_leaf hleaf]
  rfl

end

/-- items that are pairs with scalars begin with such a pair -/
theorem exists_firstScalar {xs : List Json} (hne : xs ≠ [])
    (h : ∀ x ∈ xs, ∃ v, pairValue? x = some v ∧ v.isScalar = true) :
    xs.all isIdValuePair = true ∧ ∃ fs first rest, xs = .obj fs :: rest ∧
      PairFields fs first ∧ first.isScalar = true := by
  have hp : xs.all isIdValuePair = true := by
    refine List.all_eq_true.mpr fun x hx => ?_
    obtain ⟨v, hv, _⟩ := h x hx
    rw [isIdValuePair, hv]
    rfl
  obtain ⟨fs, first, rest, rfl, hf⟩ := exists_firstPair hne hp
  obtain ⟨v, hv, hs⟩ := h _ List.mem_cons_self
  obtain ⟨gs, e, hg⟩ := pairValue?_eq_some_iff.mp hv
  obtain rfl := Json.obj.inj e
  exact ⟨hp, fs, first, rest, rfl, hf, hf.value_unique hg ▸ hs⟩

/-- The type of an array of pairs whose values are scalars, inferred from scratch, is that of the
first value's kind if there is room for the value, and it fits exactly the pairs whose values are of
this kind.  Where there is no room the type is unknown, which fits every pair. -/
theorem pairs_typed_by_first (s : Settings) {path : Path} {xs : List Json}
    (hd : path.length ≤ maxDepth) (hne : xs ≠ [])
    (h : ∀ x ∈ xs, ∃ v, pairValue? x = some v ∧ v.isScalar = true) :
    let generic := Name.idValueName s.affixes
    let shape := (infer s path {} (.arr xs)).1
    let registry := (infer s path {} (.arr xs)).2.registry
    ∃ first t, xs.head?.bind pairValue? = some first ∧ shape.type = .array t ∧
      (path.length + 2 ≤ maxDepth →
        (∀ T, shape.type.text = pairsText generic T ↔ T = Primitive.of first) ∧
          ∀ x ∈ xs, ∀ v, pairValue? x = some v →
            (Conforms registry x t ↔ Primitive.of v = Primitive.of first)) ∧
      (maxDepth < path.length + 2 → shape.type.text = generic ++ "<unknown>" ++ "[]" ∧
        ∀ x ∈ xs, Conforms registry x t) := by
  intro generic shape registry
  obtain ⟨hp, fs, first, rest, rfl, hf, hscalar⟩ := exists_firstScalar hne h
  have hfirst : pairValue? (.obj fs) = some first := pairValue?_eq_some_iff.mpr ⟨fs, rfl, hf⟩
  have hdeep : ¬ maxDepth < path.length := Nat.not_lt.mpr hd
  have hr : registry = ⟨[], some generic⟩ := registry_infer_pairs hdeep hf hscalar hp
  have htype : shape.type = pairsType generic (if path.length + 2 ≤ maxDepth then
      .name (Primitive.of first).name else .unknown) := by
    show (infer s path {} _).1.type = _
    rw [shape_infer, shapeAt_pairs hdeep hne hp, type_pairShapeAt hf hscalar]
  by_cases hroom : path.length + 2 ≤ maxDepth
  · rw [if_pos hroom] at htype
    refine ⟨first, _, hfirst, htype, fun _ => ⟨fun T => ?_, fun x hx v hv => ?_⟩, fun hn => ?_⟩
    · rw [htype, text_pairsType]
      exact ⟨fun e => (pairsText_inj e).symm, fun e => by rw [e]⟩
    · obtain ⟨gs, rfl, hg⟩ := pairValue?_eq_some_iff.mp hv
      obtain ⟨w, hw, hs⟩ := h _ hx
      obtain rfl : v = w := Option.some.inj (hv.symm.trans hw)
      rw [hr]
      exact conforms_element_iff rfl hg hs _
    · omega
  · rw [if_neg hroom] at htype
    refine ⟨first, _, hfirst, htype, fun hn => absurd hn hroom, fun _ => ⟨?_, fun x hx => ?_⟩⟩
    · rw [htype, text_pairsType_unknown]
    · obtain ⟨v, hv, _⟩ := h x hx
      obtain ⟨gs, rfl, hg⟩ := pairValue?_eq_some_iff.mp hv
      rw [hr]
      exact .pair rfl hg (.unknown v)

/-- numbers of both sorts are of one kind, a truth value is of another one -/
theorem pairs_typed_by_number :
    let s : Settings := { affixes := ⟨"P_", "$"⟩ }
    let half : Double := .finite false 4503599627370496 1021
    let pair := fun v : Json => Json.obj [("value", v), ("id", .str "a")]
    let xs := [pair (.int 1), pair (.float half), pair (.bool true)]
    let shape := (infer s ["b"] {} (.arr xs)).1
    let registry := (infer s ["b"] {} (.arr xs)).2.registry
    ["b"].length ≤ maxDepth ∧ xs ≠ [] ∧ (∀ x ∈ xs, ∃ v, pairValue? x = some v ∧ v.isScalar = true) ∧
      ["b"].length + 2 ≤ maxDepth ∧ shape.type.text = "P_IdValue<number>[]" ∧
      ∃ t, shape.type = .array t ∧ Conforms registry (pair (.float half)) t ∧
        ¬ Conforms registry (pair (.bool true)) t := by
  intro s half pair xs shape registry
  have hd : ["b"].length ≤ maxDepth := by decide
  have hroom : ["b"].length + 2 ≤ maxDepth := by decide
  have hscalar : ∀ x ∈ xs, ∃ v, pairValue? x = some v ∧ v.isScalar = true := by decide
  obtain ⟨first, t, hfirst, htype, hfits, _⟩ :=
    pairs_typed_by_first s hd (List.cons_ne_nil _ _) hscalar
  obtain rfl : Json.int 1 = first := Option.some.inj hfirst
  obtain ⟨htext, hitem⟩ := hfits hroom
  refine ⟨hd, List.cons_ne_nil _ _, hscalar, hroom, (htext .number).mpr rfl, t, htype, ?_, ?_⟩
  · exact (hitem (pair (.float half)) (by simp) (.float half) rfl).mpr rfl
  · intro h
    have hkind := (hitem (pair (.bool true)) (by simp) (.bool true) rfl).mp h
    exact Primitive.noConfusion hkind

/-- one number makes the values of all pairs numbers, also a text -/
theorem pairs_mixed_kinds :
    let pair := fun (i : String) (v : Json) => Json.obj [("id", .str i), ("value", v)]
    let xs := [pair "a" (.int 1), pair "b" (.str "x")]
    let shape := (infer {} [] {} (.arr xs)).1
    let registry := (infer {} [] {} (.arr xs)).2.registry
    (∀ x ∈ xs, ∃ v, pairValue? x = some v ∧ v.isScalar = true) ∧
      shape.type.text = "IdValue<number>[]" ∧ pairValue? (pair "b" (.str "x")) = some (.str "x") ∧
      Primitive.of (.str "x") ≠ .number ∧ ¬ Conforms registry (.arr xs) shape.type := by
  intro pair xs shape registry
  have hfields : PairFields [("id", .str "b"), ("value", .str "x")] (.str "x") :=
    ⟨"b", List.Perm.refl _⟩
  refine ⟨by decide, by decide, rfl, by decide, fun h => ?_⟩
  have hx := conforms_array_iff.mp h _ (List.mem_cons_of_mem _ List.mem_cons_self)
  have hkind := (conforms_element_iff (a := {}) rfl hfields rfl .number).mp hx
  exact absurd hkind (by decide)

end Infer

end SampleTypes
