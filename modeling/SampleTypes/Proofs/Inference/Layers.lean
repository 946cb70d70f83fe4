import SampleTypes.Proofs.Declaration.Mentions
import SampleTypes.Proofs.Inference.Formed

/-!
# Declarations are registered in layers

A record is declared after the records below it, so a declaration finds all the names that it
mentions registered.  Its own name is never among them: if a record below has taken that name
already, the declaration is not registered.

* `Layered s r`           every declaration is that of a record, and its types are formed with the
                          names of the declarations before it;
* `Layered.register`, `Layered.registerIdValue`   what one step of registration keeps;
* `Layered.takeAll`       what the inference of a value keeps;
* `layered_walk`          what any number of inferences keeps;
* `emissionOrder_walk`    names are mentioned after their registration only, so no circle of
                          mentions comes about, and if keys do not spell names the order of
                          registration is the one of emission.
-/

namespace SampleTypes

open Declaration

namespace TypeExpr

/-- the names of types that nothing declares -/
def IsBasic (n : String) : Prop := n = "unknown" ∨ ∃ p : Primitive, n = p.name

theorem IsBasic.plain {n : String} (h : IsBasic n) : Plain (.name n) := by
  rcases h with rfl | ⟨p, rfl⟩
  · exact plain_unknown
  · exact plain_basic p

theorem not_isBasic_of_isTypeName {n : String} (h : IsTypeName n) : ¬ IsBasic n := by
  rintro (e | ⟨p, e⟩)
  · exact h.ne_unknown e
  · exact h.ne_basic p e

theorem IsBasic.identifiers_eq {n : String} (h : IsBasic n) : identifiers n = [n] := by
  rcases h with rfl | ⟨p, rfl⟩
  · decide
  · cases p <;> decide

theorem Formed.mem_names {r : Registry} {t : TypeExpr} (h : t.Formed r) :
    ∀ n ∈ t.names, n ∈ r.names ∨ IsBasic n ∨ r.idValueName = some n := by
  induction h with
  | unknown =>
    intro n hn
    exact .inr (.inl (.inl (List.mem_singleton.mp hn)))
  | basic p =>
    intro n hn
    exact .inr (.inl (.inr ⟨p, List.mem_singleton.mp hn⟩))
  | declared h =>
    intro n hn
    rw [List.mem_singleton.mp hn]
    exact .inl h
  | array _ ih =>
    rw [names]
    exact ih
  | @union ts _ _ _ ih =>
    intro n hn
    rw [names, names, namesOfAll_eq_flatMap] at hn
    obtain ⟨t, ht, hn⟩ := List.mem_flatMap.mp hn
    exact ih t ht n hn
  | pairs hg =>
    intro n hn
    rw [names, names, List.mem_singleton] at hn
    rw [hn]
    exact .inr (.inr hg)
  | apply hg _ _ ih =>
    rw [names, names]
    exact List.forall_mem_cons.mpr ⟨.inr (.inr hg), ih⟩

end TypeExpr

namespace Infer

/-- every declaration is that of a record, and its types are formed with the names before it -/
structure Layered (s : Settings) (r : Registry) : Prop where
  generic : r.idValueName = none ∨ r.idValueName = some (Name.idValueName s.affixes)
  nodup : r.names.Nodup
  declared : ∀ d ∈ r.declarations, ∃ path fs, d = declarationAt s path fs
  formed : ∀ before d after, r.declarations = before ++ d :: after →
    ∀ f ∈ d.fields, f.2.type.Formed ⟨before, r.idValueName⟩

namespace Layered

variable {s : Settings} {r : Registry}

theorem empty (s : Settings) : Layered s {} := by
  refine ⟨.inl rfl, List.nodup_nil, by simp, ?_⟩
  intro before d after e
  simp at e

/-! ## one step -/

theorem register (h : Layered s r) {d : TypeDecl} (hd : ∃ path fs, d = declarationAt s path fs)
    (hf : ∀ f ∈ d.fields, f.2.type.Formed r) : Layered s (r.register d) := by
  by_cases hc : r.contains d.name = true
  · rw [Registry.register, if_pos hc]
    exact h
  have hnew : d.name ∉ r.names := fun hm => hc (Registry.contains_eq_true_iff.mpr hm)
  have hnames : (r.register d).names = r.names ++ [d.name] := by
    rw [Registry.names_register, if_neg hnew]
  have hr : r.register d = ⟨r.declarations ++ [d], r.idValueName⟩ := by
    rw [Registry.register, if_neg hc]
  refine ⟨?_, ?_, ?_, ?_⟩
  · rw [hr]
    exact h.generic
  · rw [hnames, List.nodup_append_comm]
    exact List.nodup_cons.mpr ⟨hnew, h.nodup⟩
  · rw [hr]
    exact List.forall_mem_append.mpr ⟨h.declared, List.forall_mem_singleton.mpr hd⟩
  · rw [hr]
    intro before e after hsplit
    -- the new declaration is the last one, so the split is at it or at one from before
    rcases List.eq_nil_or_concat after with rfl | ⟨rest, last, rfl⟩
    · obtain ⟨hbefore, he⟩ := List.append_inj' hsplit rfl
      obtain rfl : d = e := (List.cons.inj he).1
      rw [← hbefore]
      exact hf
    · have hlast : before ++ e :: rest.concat last = (before ++ e :: rest) ++ [last] := by
        rw [List.append_assoc, List.cons_append, List.concat_eq_append]
      exact h.formed before e rest (List.append_inj' (hsplit.trans hlast) rfl).1

theorem registerIdValue (h : Layered s r) :
    Layered s (r.registerIdValue (Name.idValueName s.affixes)) := by
  refine ⟨.inr ?_, h.nodup, h.declared, ?_⟩
  · show some (r.idValueName.getD _) = _
    rcases h.generic with e | e <;> rw [e] <;> rfl
  · have hkept := (Registry.within_take r (.generic (Name.idValueName s.affixes))).generic
    intro before d after hsplit f hf
    have hwithin : Registry.Within ⟨before, r.idValueName⟩
        ⟨before, (r.registerIdValue (Name.idValueName s.affixes)).idValueName⟩ :=
      ⟨List.Subset.refl _, hkept⟩
    exact (h.formed before d after hsplit f hf).mono hwithin

/-! ## the inference of a value -/

theorem takeAll_flatMap {α : Type} {f : α → List Finding} {xs : List α}
    (h : ∀ x ∈ xs, ∀ r, Layered s r → Layered s (r.takeAll (f x))) (hr : Layered s r) :
    Layered s (r.takeAll (xs.flatMap f)) := by
  induction xs generalizing r with
  | nil => exact hr
  | cons x xs ih =>
    rw [List.flatMap_cons, Registry.takeAll_append]
    apply ih fun y hy => h y (List.mem_cons_of_mem _ hy)
    exact h x List.mem_cons_self r hr

/-- the types of a record's fields are formed in a registry that has taken in what is found in
the fields -/
theorem formed_fields (h : Layered s r) (ha : s.affixes.isPlain = true) (path : Path)
    (fs : Record) : ∀ f ∈ (declarationAt s path fs).fields, f.2.type.Formed
      (r.takeAll (fs.flatMap fun p => findings s (path ++ [p.1]) p.2)) := by
  intro f hf
  obtain ⟨p, hp, rfl⟩ := List.mem_map.mp hf
  have hgeneric : ∀ n, .generic n ∈ (fs.flatMap fun p => findings s (path ++ [p.1]) p.2) →
      n = Name.idValueName s.affixes := by
    intro n hn
    obtain ⟨q, _, hn⟩ := List.mem_flatMap.mp hn
    exact eq_idValueName_of_mem n hn
  have hshape := sound_shapeAt ha
    (r.takeAll (fs.flatMap fun p => findings s (path ++ [p.1]) p.2)) p.2 (path ++ [p.1])
    fun g hg => holds_takeAll h.generic hgeneric g (List.mem_flatMap.mpr ⟨p, hp, hg⟩)
  show (fieldShape s (path ++ [p.1]) p.2 _).type.Formed _
  rw [type_fieldShape]
  exact hshape.1.self.formed

theorem takeAll (h : Layered s r) (ha : s.affixes.isPlain = true) (path : Path) (v : Json) :
    Layered s (r.takeAll (findings s path v)) := by
  induction path, v using Infer.induction generalizing r with
  | deep path v hd =>
    rw [findings_deep hd]
    exact h
  | leaf path v hd hv =>
    rw [findings_leaf hv]
    exact h
  | empty path hd =>
    rw [findings_empty]
    exact h
  | pairs path xs hd hne hp ih =>
    obtain ⟨fs, v, rest, rfl, hf⟩ := exists_firstPair hne hp
    rw [findings_pairs hd hne hp, pairFindings_cons hf, Registry.takeAll_append]
    exact (ih fs v List.mem_cons_self hf _ h).registerIdValue
  | items path xs hd hne hp ih =>
    rw [findings_items hd hp, itemFindings_eq_zipIdx]
    exact takeAll_flatMap (fun x hx _ hr => ih x.1 (List.fst_mem_of_mem_zipIdx hx) _ hr) h
  | record path fs hd ih =>
    rw [findings_record hd, Registry.takeAll_append]
    -- whether the name of the record is taken is only asked after all below it is registered
    have hbelow : Layered s (r.takeAll (fs.flatMap fun p => findings s (path ++ [p.1]) p.2)) :=
      takeAll_flatMap (fun p hp _ hr => ih p hp (path ++ [p.1]) hr) h
    exact hbelow.register ⟨path, fs, rfl⟩ (h.formed_fields ha path fs)

end Layered

theorem layered_walk {s : Settings} (ha : s.affixes.isPlain = true) {p : Progress}
    (h : Layered s p.registry) (calls : List (Path × Json)) :
    Layered s (walk s p calls).2.registry := by
  induction calls generalizing p with
  | nil => exact h
  | cons c calls ih =>
    obtain ⟨path, v⟩ := c
    have hreg : (infer s path p v).2.registry = p.registry.takeAll (findings s path v) :=
      registry_infer s path p v
    apply ih (p := (infer s path p v).2)
    rw [hreg]
    exact h.takeAll ha path v

/-! ## the names of a layered registry -/

namespace Layered

variable {s : Settings} {r : Registry}

theorem isTypeName (h : Layered s r) (ha : s.affixes.isPlain = true) {n : String}
    (hn : n ∈ r.names) : IsTypeName n := by
  obtain ⟨d, hd, rfl⟩ := List.mem_map.mp hn
  obtain ⟨path, fs, rfl⟩ := h.declared d hd
  exact isTypeName_recordName ha path

theorem not_isBasic (h : Layered s r) (ha : s.affixes.isPlain = true) {n : String}
    (hn : n ∈ r.names) : ¬ TypeExpr.IsBasic n :=
  TypeExpr.not_isBasic_of_isTypeName (h.isTypeName ha hn)

theorem idValueName_eq (h : Layered s r) {g : String} (hg : r.idValueName = some g) :
    g = Name.idValueName s.affixes := by
  rcases h.generic with e | e
  · simp [e] at hg
  · rw [hg] at e
    exact Option.some.inj e

theorem mentions (h : Layered s r) {before after : List TypeDecl} {d : TypeDecl}
    (e : r.declarations = before ++ d :: after) {n : String} (hn : d.Mentions n) :
    n ∈ before.map (·.name) ∨ TypeExpr.IsBasic n ∨ r.idValueName = some n := by
  obtain ⟨f, hf, hn⟩ := hn
  exact (h.formed before d after e f hf).mem_names n hn

/-- a declared name is mentioned after its registration only, if it is not that of the generic
type -/
theorem mentions_earlier (h : Layered s r) (ha : s.affixes.isPlain = true)
    (hg : Name.idValueName s.affixes ∉ r.names) {before after : List TypeDecl} {d : TypeDecl}
    (e : r.declarations = before ++ d :: after) {n : String} (hn : d.Mentions n)
    (hr : n ∈ r.names) : n ∈ before.map (·.name) := by
  rcases h.mentions e hn with hb | hb | hb
  · exact hb
  · exact absurd hb (h.not_isBasic ha hr)
  · rw [h.idValueName_eq hb] at hr
    exact absurd hr hg

theorem before_of_uses (h : Layered s r) (ha : s.affixes.isPlain = true)
    (hg : Name.idValueName s.affixes ∉ r.names) {a b : String} (hu : r.Uses a b) :
    Before r.names b a := by
  obtain ⟨hb, d, hd, rfl, hm⟩ := hu
  obtain ⟨before, after, e⟩ := List.append_of_mem hd
  exact Registry.before_of_split e (h.mentions_earlier ha hg e hm hb)

/-- with an identifier in front of them all names are identifiers -/
theorem isIdentifier_names (h : Layered s r) (ha : s.affixes.isPlain = true)
    (hid : isIdentifier s.affixes.lead = true) {n : String}
    (hn : n ∈ r.names ∨ r.idValueName = some n) : isIdentifier n = true := by
  rcases hn with hn | hn
  · obtain ⟨d, hd, rfl⟩ := List.mem_map.mp hn
    have hchars := (h.isTypeName ha hn).1
    obtain ⟨path, fs, rfl⟩ := h.declared d hd
    have e : (declarationAt s path fs).name =
        s.affixes.lead ++ (Name.plain (Name.keysOf path) ++ s.affixes.trail) := by
      rw [← String.append_assoc]
      rfl
    rw [e] at hchars ⊢
    exact isIdentifier_append hid hchars
  · rw [h.idValueName_eq hn]
    exact isIdentifier_append hid (isTypeName_idValueName ha).1

theorem identifiers_declared (h : Layered s r) (ha : s.affixes.isPlain = true) {n : String}
    (hn : n ∈ r.names ∨ r.idValueName = some n) (hid : isIdentifier n = true) :
    identifiers n = [n] := by
  rcases hn with hn | hn
  · exact identifiers_name (h.isTypeName ha hn).1 hid
  · rw [h.idValueName_eq hn] at hid ⊢
    exact identifiers_name (isTypeName_idValueName ha).1 hid

theorem identifiers_mentioned (h : Layered s r) (ha : s.affixes.isPlain = true)
    (hid : ∀ n, n ∈ r.names ∨ r.idValueName = some n → isIdentifier n = true) {d : TypeDecl}
    (hd : d ∈ r.declarations) {n : String} (hn : d.Mentions n) : identifiers n = [n] := by
  obtain ⟨before, after, e⟩ := List.append_of_mem hd
  rcases h.mentions e hn with hb | hb | hb
  · have hr : n ∈ r.names := Registry.names_before_subset e hb
    exact h.identifiers_declared ha (.inl hr) (hid n (.inl hr))
  · exact hb.identifiers_eq
  · exact h.identifiers_declared ha (.inr hb) (hid n (.inr hb))

theorem body_eq (h : Layered s r) {d : TypeDecl} (hd : d ∈ r.declarations) :
    d.body = interfaceText d.name d.fields := by
  obtain ⟨path, fs, rfl⟩ := h.declared d hd
  rfl

/-- if names are identifiers and keys do not spell them, they are emitted as they were registered -/
theorem emissionOrder_eq (h : Layered s r) (ha : s.affixes.isPlain = true)
    (hid : ∀ n, n ∈ r.names ∨ r.idValueName = some n → isIdentifier n = true)
    (hg : Name.idValueName s.affixes ∉ r.names)
    (hkeys : ∀ d ∈ r.declarations, ∀ n ∈ r.names, ¬ d.Spells n) :
    emissionOrder r.bodies = r.names := by
  refine emissionOrder_eq_names h.nodup fun before d after e n hscan hn hne => ?_
  have hd : d ∈ r.declarations := by
    rw [e]
    exact List.mem_append_right _ List.mem_cons_self
  have hname : d.name ∈ r.names := List.mem_map_of_mem hd
  have hn' : IsTypeName n := h.isTypeName ha hn
  rcases (mem_identifiers_body (h.body_eq hd) hn').mp hscan with hown | hkey | hmention
  · rw [h.identifiers_declared ha (.inl hname) (hid _ (.inl hname)), List.mem_singleton] at hown
    exact absurd hown hne
  · exact absurd hkey (hkeys d hd n hn)
  · obtain ⟨m, hm, hnm⟩ := hmention
    rw [h.identifiers_mentioned ha hid hd hm, List.mem_singleton] at hnm
    rw [← hnm] at hm
    exact h.mentions_earlier ha hg e hm hn

end Layered

/-- After any inferences that register no name of the generic type: a declaration mentions names
registered before it, never its own, and no circle of mentions comes about.  If an identifier
stands in front of all names and no key spells a name, names are emitted as they were registered. -/
theorem emissionOrder_walk {s : Settings} (ha : s.affixes.isPlain = true)
    (calls : List (Path × Json))
    (hg : Name.idValueName s.affixes ∉ (walk s {} calls).2.registry.names) :
    let r := (walk s {} calls).2.registry
    (∀ before d after, r.declarations = before ++ d :: after → ∀ n, d.Mentions n →
      n ≠ d.name ∧ (n ∈ before.map (·.name) ∨
        n ∉ r.names ∧ (TypeExpr.IsBasic n ∨ r.idValueName = some n))) ∧
      (∀ n, ¬ Relation.TransGen r.Uses n n) ∧
      (isIdentifier s.affixes.lead = true → (∀ d ∈ r.declarations, ∀ n ∈ r.names, ¬ d.Spells n) →
        emissionOrder r.bodies = r.names) := by
  intro r
  have h : Layered s r := layered_walk ha (.empty s) calls
  refine ⟨?_, ?_, fun hid hkeys => ?_⟩
  · intro before d after e n hn
    by_cases hr : n ∈ r.names
    · have hbefore := h.mentions_earlier ha hg e hn hr
      exact ⟨(Registry.before_of_split e hbefore).ne h.nodup, .inl hbefore⟩
    · have hne : n ≠ d.name := by
        rintro rfl
        apply hr
        rw [Registry.names_split e]
        exact List.mem_append_right _ List.mem_cons_self
      have hlate : n ∉ before.map (·.name) := fun hm => hr (Registry.names_before_subset e hm)
      exact ⟨hne, .inr ⟨hr, (h.mentions e hn).resolve_left hlate⟩⟩
  · exact Before.acyclic h.nodup fun a b hu => h.before_of_uses ha hg hu
  · exact h.emissionOrder_eq ha (fun n hn => h.isIdentifier_names ha hid hn) hg hkeys

/-- a record inside one of the same name, which takes the name first -/
theorem emissionOrder_walk_nested :
    let s : Settings := { affixes := ⟨"P", ""⟩ }
    let calls : List (Path × Json) :=
      [([], .obj [("a", .obj [("b", .obj [("a", .obj [("x", .int 1)])])]),
        ("c", .arr [.obj [("id", .str "x"), ("value", .bool true)]])])]
    let r := (walk s {} calls).2.registry
    s.affixes.isPlain = true ∧ Name.idValueName s.affixes ∉ r.names ∧
      isIdentifier s.affixes.lead = true ∧ (∀ d ∈ r.declarations, ∀ n ∈ r.names, ¬ d.Spells n) ∧
      r.names = ["PA", "PB", "PHit"] ∧ (∀ n, ¬ Relation.TransGen r.Uses n n) ∧
      emissionOrder r.bodies = r.names := by
  intro s calls r
  have ha : s.affixes.isPlain = true := by decide
  have hg : Name.idValueName s.affixes ∉ (walk s {} calls).2.registry.names := by decide
  have hid : isIdentifier s.affixes.lead = true := by decide
  have hkeys : ∀ d ∈ r.declarations, ∀ n ∈ r.names, ¬ d.Spells n := by decide
  have hnames : r.names = ["PA", "PB", "PHit"] := by decide
  obtain ⟨_, hacyclic, horder⟩ := emissionOrder_walk ha calls hg
  exact ⟨ha, hg, hid, hkeys, hnames, hacyclic, horder hid hkeys⟩

end Infer

end SampleTypes
