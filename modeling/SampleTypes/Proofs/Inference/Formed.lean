import SampleTypes.Proofs.Declaration.Document
import SampleTypes.Proofs.Inference.Occurrences
import SampleTypes.Proofs.Inference.Repeats
import SampleTypes.Proofs.Shape.Expr
import SampleTypes.Proofs.Shape.Rows

/-!
# Types are well formed and mention declared names only

* `TypeExpr.Formed r t`   the types that can occur, with the names of the registry `r`;
* `Shape.Sound r s`       the type of a shape is formed, and its flags go with it;
* `Registry.Holds r f`    the registry holds what was found;
* `sound_shapeAt`         if a registry holds what is found for a value, all shapes of the value
                          are sound;
* `Reached s r`           what holds of every registry that inference leads to;
* `sound_walk`            after any inferences all shapes given and all declared fields are sound,
                          and all that they mention is emitted.
-/

namespace SampleTypes

/-- the types that can occur: names are declared, alternatives are two or more that are written in
different ways, and the generic type of pairs is applied to types other than text -/
inductive TypeExpr.Formed (r : Registry) : TypeExpr → Prop
  | unknown : Formed r .unknown
  | basic (p : Primitive) : Formed r (.name p.name)
  | declared {n : String} (h : n ∈ r.names) : Formed r (.name n)
  | array {t : TypeExpr} (h : Formed r t) : Formed r (.array t)
  | union {ts : List TypeExpr} (two : 2 ≤ ts.length)
      (distinct : ts.Pairwise fun t u => t.text ≠ u.text) (h : ∀ t ∈ ts, Formed r t) :
      Formed r (.array (.union ts))
  | pairs {g : String} (hg : r.idValueName = some g) : Formed r (.array (.name g))
  | apply {g : String} {t : TypeExpr} (hg : r.idValueName = some g) (ht : t.text ≠ "string")
      (h : Formed r t) : Formed r (.array (.apply g t))

/-- the type of a shape is formed, and its flags go with it -/
structure Shape.Sound (r : Registry) (s : Shape) : Prop where
  formed : s.type.Formed r
  array : s.isArray = s.type.isArrayText
  unknown : s.type.text = "unknown" → s.isOptional = true
  nullable : s.isNullable = true → s.isOptional = true

namespace Registry

/-- what a registry holds another one holds too -/
structure Within (r r' : Registry) : Prop where
  names : r.names ⊆ r'.names
  generic : ∀ g, r.idValueName = some g → r'.idValueName = some g

theorem Within.refl (r : Registry) : Within r r := ⟨List.Subset.refl _, fun _ h => h⟩

theorem Within.trans {r s t : Registry} (h : Within r s) (h' : Within s t) : Within r t :=
  ⟨List.Subset.trans h.names h'.names, fun g hg => h'.generic g (h.generic g hg)⟩

theorem within_take (r : Registry) (f : Infer.Finding) : Within r (r.take f) := by
  refine ⟨fun n hn => names_take r f hn, fun g hg => ?_⟩
  cases f with
  | record d =>
    rw [take, register]
    split <;> exact hg
  | generic m => rw [take, registerIdValue, hg, Option.getD_some]

theorem within_takeAll (r : Registry) (fs : List Infer.Finding) : Within r (r.takeAll fs) := by
  induction fs generalizing r with
  | nil => exact Within.refl r
  | cons f fs ih => exact (within_take r f).trans (ih _)

/-- the registry holds what was found -/
def Holds (r : Registry) : Infer.Finding → Prop
  | .record d => d.name ∈ r.names
  | .generic g => r.idValueName = some g

end Registry

theorem TypeExpr.Formed.mono {r r' : Registry} (hr : r.Within r') {t : TypeExpr}
    (h : t.Formed r) : t.Formed r' := by
  induction h with
  | unknown => exact .unknown
  | basic p => exact .basic p
  | declared h => exact .declared (hr.names h)
  | array _ ih => exact .array ih
  | union two distinct _ ih => exact .union two distinct ih
  | pairs hg => exact .pairs (hr.generic _ hg)
  | apply hg ht _ ih => exact .apply (hr.generic _ hg) ht ih

namespace Shape

variable {r : Registry}

theorem Sound.mono {r' : Registry} (hr : r.Within r') {s : Shape} (h : s.Sound r) : s.Sound r' :=
  ⟨h.formed.mono hr, h.array, h.unknown, h.nullable⟩

/-- brackets are not written twice -/
theorem Sound.arrayType_eq {s : Shape} (h : s.Sound r) :
    Declaration.arrayType s = s.type.text := by
  rw [Declaration.arrayType, h.array]
  cases s.type.isArrayText <;> rfl

theorem sound_unknown : Shape.unknown.Sound r :=
  ⟨.unknown, rfl, fun _ => rfl, fun h => Bool.noConfusion h⟩

theorem sound_basic (p : Primitive) : Sound r { type := .name p.name } := by
  refine ⟨.basic p, ?_, fun h => ?_, fun h => Bool.noConfusion h⟩
  · cases p <;> rfl
  · cases p <;> exact absurd h (by decide)

theorem text_array_ne_unknown (t : TypeExpr) : (TypeExpr.array t).text ≠ "unknown" := by
  intro h
  have ha := TypeExpr.isArrayText_array t
  rw [TypeExpr.isArrayText, h] at ha
  exact absurd ha (by decide)

theorem sound_array {t : TypeExpr} (h : (TypeExpr.array t).Formed r) (fs : List (String × Shape)) :
    Sound r { type := .array t, isArray := true, fields := fs } :=
  ⟨h, (TypeExpr.isArrayText_array t).symm, fun e => absurd e (text_array_ne_unknown t),
    fun h => Bool.noConfusion h⟩

theorem sound_emptyArray : Shape.emptyArray.Sound r :=
  ⟨.array .unknown, rfl, fun _ => rfl, fun h => Bool.noConfusion h⟩

theorem sound_record {n : String} (hn : IsTypeName n) (h : n ∈ r.names)
    (fs : List (String × Shape)) : Sound r { type := .name n, fields := fs } := by
  refine ⟨.declared h, ?_, fun e => absurd e ?_, fun h => Bool.noConfusion h⟩
  · rw [TypeExpr.isArrayText_eq (TypeExpr.plain_of_isTypeName hn)]
    rfl
  · rw [TypeExpr.text]
    exact hn.ne_unknown

theorem everywhere_plain {P : Shape → Prop} {s : Shape} (h : P s) (hf : s.fields = []) :
    s.Everywhere P := everywhere_iff.mpr ⟨h, by simp [hf]⟩

/-- marking a field as null in some records keeps its shape sound -/
theorem Sound.nullable_everywhere {s : Shape} (h : s.Everywhere (Sound r)) :
    s.nullable.Everywhere (Sound r) := by
  obtain ⟨hs, hf⟩ := everywhere_iff.mp h
  exact everywhere_iff.mpr ⟨⟨hs.formed, hs.array, fun _ => rfl, fun _ => rfl⟩, hf⟩

end Shape

namespace Infer

open Declaration Shape

section
variable {r : Registry}

/-- an array of items of several types, or of one -/
theorem sound_union {ts : List TypeExpr} (hne : ts ≠ [])
    (hd : ts.Pairwise fun t u => t.text ≠ u.text) (hts : ∀ t ∈ ts, t.Formed r) :
    (Elements.union ts).shape.Everywhere (Sound r) := by
  cases ts with
  | nil => exact absurd rfl hne
  | cons t ts =>
    cases ts with
    | nil => exact everywhere_plain (sound_array (.array (hts t (by simp))) _) rfl
    | cons u ts => exact everywhere_plain (sound_array (.union (by simp) hd hts) _) rfl

theorem sound_elements {ss : List Shape} (h : ∀ s ∈ ss, s.Everywhere (Sound r)) {e : Elements}
    (he : Elements.of? ss = some e) : e.shape.Everywhere (Sound r) := by
  cases ss with
  | nil => simp [Elements.of?] at he
  | cons first rest =>
    rw [Elements.of?] at he
    split at he
    · obtain rfl := Option.some.inj he
      obtain ⟨hs, hf⟩ := everywhere_iff.mp (h first (by simp))
      exact everywhere_iff.mpr ⟨sound_array (.array hs.formed) _, hf⟩
    · obtain rfl := Option.some.inj he
      refine sound_union (List.cons_ne_nil _ _) (pairwise_distinctBy _ _) fun t ht => ?_
      obtain ⟨s, hs, rfl⟩ := List.mem_map.mp (mem_of_mem_distinctBy ht)
      exact (h s hs).self.formed

theorem sound_arrayShape {ss : List Shape} (h : ∀ s ∈ ss, s.Everywhere (Sound r)) :
    (arrayShape ss).Everywhere (Sound r) := by
  rw [arrayShape]
  cases he : Elements.of? ss with
  | none => exact everywhere_plain sound_emptyArray rfl
  | some e => exact sound_elements h he

end

/-- the shapes of a value are sound, and those of the fields declared for it, in a registry that
holds what is found for the value -/
def SoundAt (s : Settings) (r : Registry) (v : Json) : Prop :=
  ∀ path, (∀ f ∈ findings s path v, r.Holds f) →
    (shapeAt s path v).Everywhere (Sound r) ∧
      ∀ d, .record d ∈ findings s path v → ∀ f ∈ d.fields, f.2.Everywhere (Sound r)

section
variable {s : Settings} {r : Registry}

theorem soundAt_items {xs : List Json} (h : ∀ x ∈ xs, SoundAt s r x) (path : Path) (i : Nat)
    (hr : ∀ f ∈ itemFindings s path i xs, r.Holds f) :
    (∀ t ∈ itemShapesAt s path i xs, t.Everywhere (Sound r)) ∧
      ∀ d, .record d ∈ itemFindings s path i xs → ∀ f ∈ d.fields, f.2.Everywhere (Sound r) := by
  induction xs generalizing i with
  | nil => exact ⟨by simp [itemShapesAt], by simp [itemFindings]⟩
  | cons x xs ih =>
    rw [itemFindings, List.forall_mem_append] at hr
    obtain ⟨h1, h2⟩ := h x (by simp) _ hr.1
    obtain ⟨ih1, ih2⟩ := ih (fun y hy => h y (List.mem_cons_of_mem _ hy)) (i + 1) hr.2
    rw [itemShapesAt, itemFindings]
    refine ⟨List.forall_mem_cons.mpr ⟨h1, ih1⟩, fun d hd => ?_⟩
    rcases List.mem_append.mp hd with hd | hd
    · exact h2 d hd
    · exact ih2 d hd

theorem sound_leafShape (v : Json) : (leafShape v).Everywhere (Sound r) := by
  rw [leafShape]
  split
  · exact everywhere_plain sound_unknown rfl
  · exact everywhere_plain (sound_basic _) rfl

theorem sound_shapeAt (ha : s.affixes.isPlain = true) (r : Registry) (v : Json) :
    SoundAt s r v := by
  intro path
  induction path, v using Infer.induction with
  | deep path v hd =>
    rw [shapeAt_deep hd, findings_deep hd]
    exact fun _ => ⟨everywhere_plain sound_unknown rfl, by simp⟩
  | leaf path v hd hv =>
    rw [shapeAt_leaf hd hv, findings_leaf hv]
    exact fun _ => ⟨sound_leafShape v, by simp⟩
  | empty path hd =>
    rw [shapeAt_empty hd, findings_empty]
    exact fun _ => ⟨everywhere_plain sound_emptyArray rfl, by simp⟩
  | pairs path xs hd hne hp ih =>
    intro hr
    obtain ⟨fs, v, rest, rfl, hf⟩ := exists_firstPair hne hp
    rw [findings_pairs hd hne hp, pairFindings_cons hf, List.forall_mem_append] at hr
    rw [shapeAt_pairs hd hne hp, findings_pairs hd hne hp, pairShapeAt_cons hf,
      pairFindings_cons hf]
    obtain ⟨h1, h2⟩ := ih fs v (by simp) hf _ hr.1
    have hg : r.idValueName = some (Name.idValueName s.affixes) :=
      hr.2 (.generic (Name.idValueName s.affixes)) (by simp)
    refine ⟨everywhere_plain (sound_array ?_ _) rfl, fun d hm => h2 d ?_⟩
    · split
      · exact .pairs hg
      · rename_i ht
        exact .apply hg ht h1.self.formed
    · rcases List.mem_append.mp hm with hm | hm
      · exact hm
      · simp at hm
  | items path xs hd hne hp ih =>
    intro hr
    rw [findings_items hd hp] at hr
    rw [shapeAt_items hd hne hp, findings_items hd hp]
    obtain ⟨h1, h2⟩ := soundAt_items ih path 0 hr
    exact ⟨sound_arrayShape h1, h2⟩
  | record path fs hd ih =>
    intro hr
    rw [findings_record hd, List.forall_mem_append] at hr
    rw [shapeAt_record hd, findings_record hd]
    -- what is found in the fields is held already, before the record is declared
    have hbelow : ∀ p ∈ fs, _ := fun p hp => ih p hp (path ++ [p.1]) fun f hf =>
      hr.1 f (List.mem_flatMap.mpr ⟨p, hp, hf⟩)
    have hfields : ∀ f ∈ fieldShapesAt s path fs, f.2.Everywhere (Sound r) := by
      intro f hf
      obtain ⟨p, hp, rfl⟩ := List.mem_map.mp hf
      show (fieldShape s (path ++ [p.1]) p.2 _).Everywhere _
      rw [fieldShape]
      split
      · exact Sound.nullable_everywhere (hbelow p hp).1
      · exact (hbelow p hp).1
    have hname : Name.recordName s.affixes path ∈ r.names :=
      hr.2 (.record (declarationAt s path fs)) (by simp)
    refine ⟨everywhere_iff.mpr ⟨sound_record (isTypeName_recordName ha path) hname _, hfields⟩,
      fun d hm => ?_⟩
    rcases List.mem_append.mp hm with hm | hm
    · obtain ⟨p, hp, hm⟩ := List.mem_flatMap.mp hm
      exact (hbelow p hp).2 d hm
    · obtain rfl : d = declarationAt s path fs := by simpa using hm
      exact hfields

end

/-! ## runs -/

/-- the shapes of values inferred one after the other, and the progress made -/
def walk (s : Settings) : Progress → List (Path × Json) → List Shape × Progress
  | p, [] => ([], p)
  | p, (path, v) :: calls =>
    let (shape, p) := infer s path p v
    let (shapes, p) := walk s p calls
    (shape :: shapes, p)

/-- the generic type is named by the settings, and all declared fields are sound -/
structure Reached (s : Settings) (r : Registry) : Prop where
  generic : r.idValueName = none ∨ r.idValueName = some (Name.idValueName s.affixes)
  sound : ∀ d ∈ r.declarations, ∀ f ∈ d.fields, f.2.Everywhere (Sound r)

theorem reached_empty (s : Settings) : Reached s {} := ⟨.inl rfl, fun d hd => by simp at hd⟩

section
variable {s : Settings} {r : Registry}

theorem mem_declarations_take {f : Finding} {d : TypeDecl} (h : d ∈ (r.take f).declarations) :
    d ∈ r.declarations ∨ f = .record d := by
  cases f with
  | record e =>
    rw [Registry.take, Registry.register] at h
    split at h
    · exact .inl h
    · rcases List.mem_append.mp h with h | h
      · exact .inl h
      · exact .inr (by rw [List.mem_singleton.mp h])
  | generic m => exact .inl h

/-- every declaration was there before or was found -/
theorem mem_declarations_takeAll {fs : List Finding} {d : TypeDecl}
    (h : d ∈ (r.takeAll fs).declarations) : d ∈ r.declarations ∨ .record d ∈ fs := by
  induction fs generalizing r with
  | nil => exact .inl h
  | cons f fs ih =>
    rcases ih h with h | h
    · rcases mem_declarations_take h with h | rfl
      · exact .inl h
      · exact .inr (by simp)
    · exact .inr (List.mem_cons_of_mem _ h)

theorem generic_takeAll {g : String} (h : r.idValueName = none ∨ r.idValueName = some g)
    {fs : List Finding} (hfs : ∀ n, .generic n ∈ fs → n = g) :
    (r.takeAll fs).idValueName = none ∨ (r.takeAll fs).idValueName = some g := by
  induction fs generalizing r with
  | nil => exact h
  | cons f fs ih =>
    refine ih ?_ fun n hn => hfs n (List.mem_cons_of_mem _ hn)
    cases f with
    | record d =>
      show (r.register d).idValueName = none ∨ (r.register d).idValueName = some g
      rw [Registry.register]
      split <;> exact h
    | generic n =>
      obtain rfl := hfs n (by simp)
      refine .inr ?_
      show some (r.idValueName.getD n) = some n
      rcases h with h | h <;> rw [h] <;> rfl

/-- a registry holds what it has taken in -/
theorem holds_takeAll {g : String} (h : r.idValueName = none ∨ r.idValueName = some g)
    {fs : List Finding} (hfs : ∀ n, .generic n ∈ fs → n = g) :
    ∀ f ∈ fs, (r.takeAll fs).Holds f := by
  intro f hf
  have hhas := Registry.has_takeAll_self r hf
  cases f with
  | record d => exact hhas
  | generic n =>
    obtain rfl := hfs n hf
    have hsome : (r.takeAll fs).idValueName.isSome = true := hhas
    exact (generic_takeAll h hfs).resolve_left fun e => by simp [e] at hsome

theorem eq_idValueName_of_mem {path : Path} {v : Json} (n : String)
    (h : .generic n ∈ findings s path v) : n = Name.idValueName s.affixes :=
  from_occurrences s v path _ h

/-- one inference -/
theorem Reached.step (ha : s.affixes.isPlain = true) (h : Reached s r) (path : Path) (v : Json) :
    Reached s (r.takeAll (findings s path v)) ∧
      (shapeAt s path v).Everywhere (Sound (r.takeAll (findings s path v))) := by
  obtain ⟨hshape, hdecl⟩ :=
    sound_shapeAt ha _ v path (holds_takeAll h.generic eq_idValueName_of_mem)
  refine ⟨⟨generic_takeAll h.generic eq_idValueName_of_mem, ?_⟩, hshape⟩
  intro d hd f hf
  rcases mem_declarations_takeAll hd with hd | hd
  · exact (h.sound d hd f hf).mono fun t ht => ht.mono (Registry.within_takeAll _ _)
  · exact hdecl d hd f hf

/-- any number of inferences -/
theorem Reached.walk (ha : s.affixes.isPlain = true) {p : Progress} (h : Reached s p.registry)
    (calls : List (Path × Json)) : Reached s (walk s p calls).2.registry ∧
      p.registry.Within (walk s p calls).2.registry ∧
      ∀ t ∈ (walk s p calls).1, t.Everywhere (Sound (walk s p calls).2.registry) := by
  induction calls generalizing p with
  | nil => exact ⟨h, Registry.Within.refl _, by simp [Infer.walk]⟩
  | cons c calls ih =>
    obtain ⟨path, v⟩ := c
    have hreg : (infer s path p v).2.registry = p.registry.takeAll (findings s path v) :=
      registry_infer s path p v
    obtain ⟨hstep, hshape⟩ := h.step ha path v
    rw [← hreg] at hstep hshape
    obtain ⟨h1, h2, h3⟩ := ih hstep
    refine ⟨h1, Registry.Within.trans ?_ h2, List.forall_mem_cons.mpr ⟨?_, h3⟩⟩
    · rw [hreg]
      exact Registry.within_takeAll _ _
    · rw [shape_infer]
      exact hshape.mono fun t ht => ht.mono h2

end

/-- after any inferences, whatever they are of and wherever, all shapes given and all declared
fields are sound, no field is written with brackets twice, and the names that types can mention
are emitted -/
theorem sound_walk {s : Settings} (ha : s.affixes.isPlain = true) (calls : List (Path × Json)) :
    let r := (walk s {} calls).2.registry
    (∀ t ∈ (walk s {} calls).1, ∀ row ∈ t.rows, row.shape.Sound r) ∧
      (∀ d ∈ r.declarations, ∀ f ∈ d.fields, ∀ row ∈ f.2.rows, row.shape.Sound r) ∧
      (∀ d ∈ r.declarations, ∀ f ∈ d.fields, arrayType f.2 = f.2.type.text) ∧
      (∀ n ∈ r.names, n ∈ emissionOrder r.bodies) ∧
      ∀ g, r.idValueName = some g → genericBlock r = [idValueText g] := by
  obtain ⟨hreached, _, hshapes⟩ := (reached_empty s).walk (p := {}) ha calls
  refine ⟨hshapes, hreached.sound, fun d hd f hf => (hreached.sound d hd f hf).self.arrayType_eq,
    fun n hn => mem_emissionOrder_bodies.mpr hn, fun g hg => ?_⟩
  have hne : g ≠ "" := by
    rcases hreached.generic with e | e
    · rw [hg] at e
      exact absurd e (by simp)
    · rw [hg] at e
      rw [Option.some.inj e]
      exact (isTypeName_idValueName ha).ne_empty
  rw [genericBlock, hg]
  exact if_neg hne

/-- the second value has pairs among its fields, and a record that is named as the first one -/
theorem sound_walk_pairs :
    let s : Settings := { affixes := ⟨"P_", "$"⟩ }
    let calls : List (Path × Json) := [([], .obj [("a", .arr [.null, .int 1])]),
      (["[0]"], .obj [("b", .arr [.obj [("id", .str "x"), ("value", .bool true)]])])]
    s.affixes.isPlain = true ∧
      ∀ t ∈ (walk s {} calls).1, ∀ row ∈ t.rows, row.shape.Sound (walk s {} calls).2.registry :=
  ⟨by decide, (sound_walk (by decide) _).1⟩

end Infer

end SampleTypes
