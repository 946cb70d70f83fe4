import SampleTypes.Proofs.Inference.Layers

/-!
# Declarations and those they mention, in the text for some samples

A declaration follows those it mentions as far as the search reads mentions right.  It reads too
much into a text where a key spells a declared name, or where a name begins with a digit and its
rest is declared too; a mention can then lead back to the declaration that is mentioned, and the
search passes over one of the two.

* `layered_registryFor`   the registry for some samples is layered;
* `reads_mention`         a name that is an identifier is found where it is mentioned;
* `text_follows`          the text, and where in it a declaration stands;
* `text_key_spells_name`  a key that spells a declared name upsets the order.
-/

namespace SampleTypes.Declaration

open Infer

theorem layered_registryFor {a : Affixes} (ha : a.isPlain = true) (samples : List Json) :
    Layered ⟨a, nullablePaths samples⟩ (registryFor samples a) := by
  rw [registryFor, registry_infer]
  exact (Layered.empty _).takeAll ha [] _

section
variable {s : Settings} {r : Registry}

/-- a name that is an identifier is found where it is mentioned -/
theorem reads_mention (h : Layered s r) (ha : s.affixes.isPlain = true) {a b : String}
    (hu : r.Uses a b) (hab : a ≠ b) (hid : isIdentifier b = true) :
    b ∈ (Graph.ofBodies r.bodies).dependencies a := by
  obtain ⟨hb, d, hd, rfl, hm⟩ := hu
  have hscan : b ∈ identifiers b := by
    rw [h.identifiers_declared ha (.inl hb) hid]
    exact List.mem_singleton.mpr rfl
  have hbody : b ∈ identifiers d.body := by
    rw [mem_identifiers_body (h.body_eq hd) (h.isTypeName ha hb)]
    exact .inr (.inr ⟨b, hm, hscan⟩)
  exact (mem_dependencies h.nodup hd).mpr ⟨hbody, hab.symm, hb⟩

theorem before_or_reaches (h : Layered s r) (ha : s.affixes.isPlain = true) {a b : String}
    (hu : r.Uses a b) (hab : a ≠ b) (hid : isIdentifier b = true) :
    Before (emissionOrder r.bodies) b a ∨ (Graph.ofBodies r.bodies).Reaches b a := by
  have hmem : a ∈ emissionOrder r.bodies := by
    obtain ⟨_, d, hd, rfl, _⟩ := hu
    exact mem_emissionOrder_bodies.mpr (List.mem_map_of_mem hd)
  have horder := Graph.isOrder_orderFrom (Graph.closed_ofBodies r.bodies)
    (Graph.ofBodies r.bodies).nodes
  exact horder.inOrder a hmem b (reads_mention h ha hu hab hid)

theorem perm_emissionOrder (h : r.names.Nodup) : (emissionOrder r.bodies).Perm r.names := by
  have hnodup : (emissionOrder r.bodies).Nodup :=
    (Graph.isOrder_orderFrom (Graph.closed_ofBodies r.bodies) _).nodup
  exact (List.perm_ext_iff_of_nodup hnodup h).mpr fun n => mem_emissionOrder_bodies

end

/-- The text for some samples has one block for every declared name.  A declaration stands after
one that it mentions by an identifier, unless the search is led back from that one to it.  If all
names are identifiers, none is that of the generic type and no key spells one, every declaration
stands after all those that it mentions. -/
theorem text_follows (samples : List Json) {t : Target} (ha : t.affixes.isPlain = true) :
    let r := registryFor samples t.affixes
    let order := emissionOrder r.bodies
    (generate samples t).1 =
        TypeExpr.joinTexts "\n\n" (header t.indexName ::
          (genericBlock r ++ order.map (typeBlock r t.affixes))) ++ "\n" ++
        valueSetsText t.affixes (if t.enums then (mergeSamples samples).valueSets else []) ∧
      order.Nodup ∧ order.Perm r.names ∧
      (∀ a b, r.Uses a b → a ≠ b → isIdentifier b = true →
        Before order b a ∨ (Graph.ofBodies r.bodies).Reaches b a) ∧
      ((∀ n, n ∈ r.names ∨ r.idValueName = some n → isIdentifier n = true) →
        Name.idValueName t.affixes ∉ r.names →
        (∀ d ∈ r.declarations, ∀ n ∈ r.names, ¬ d.Spells n) →
        ∀ a b, r.Uses a b → Before order b a) := by
  intro r order
  have h : Layered ⟨t.affixes, nullablePaths samples⟩ r := layered_registryFor ha samples
  have hperm : order.Perm r.names := perm_emissionOrder h.nodup
  refine ⟨text_generate samples t, hperm.nodup_iff.mpr h.nodup, hperm, ?_, ?_⟩
  · intro a b hu hab hid
    exact before_or_reaches h ha hu hab hid
  · intro hid hg hkeys a b hu
    have horder : order = r.names := h.emissionOrder_eq ha hid hg hkeys
    rw [horder]
    exact h.before_of_uses ha hg hu

/-- an array of pairs, and a record that has the name of a record below it -/
theorem text_follows_prefixed :
    let samples : List Json := [.obj [("a", .obj [("b", .obj [("a", .obj [("x", .int 1)])])]),
      ("c", .arr [.obj [("id", .str "x"), ("value", .bool true)]])]]
    let t : Target := { indexName := "products", affixes := ⟨"P", "_"⟩ }
    let r := registryFor samples t.affixes
    t.affixes.isPlain = true ∧ (∀ n, n ∈ r.names ∨ r.idValueName = some n → isIdentifier n = true) ∧
      Name.idValueName t.affixes ∉ r.names ∧ (∀ d ∈ r.declarations, ∀ n ∈ r.names, ¬ d.Spells n) ∧
      r.Uses "PHit_" "PA_" ∧ Before (emissionOrder r.bodies) "PA_" "PHit_" := by
  intro samples t r
  have ha : t.affixes.isPlain = true := by decide
  have h : Layered ⟨t.affixes, nullablePaths samples⟩ r := layered_registryFor ha samples
  have hid : ∀ n, n ∈ r.names ∨ r.idValueName = some n → isIdentifier n = true := fun n hn =>
    h.isIdentifier_names ha (by decide) hn
  have hg : Name.idValueName t.affixes ∉ r.names := by decide
  have hkeys : ∀ d ∈ r.declarations, ∀ n ∈ r.names, ¬ d.Spells n := by decide
  have hu : r.Uses "PHit_" "PA_" := by decide
  obtain ⟨_, _, _, _, hbefore⟩ := text_follows samples ha
  exact ⟨ha, hid, hg, hkeys, hu, hbefore hid hg hkeys _ _ hu⟩

/-! ## a key that spells a declared name -/

/-- the record at `a` has a key that spells the name of the outer one, so the search takes the two
for a circle, and the outer one stands first although it mentions the other one -/
theorem text_key_spells_name :
    let samples : List Json := [.obj [("a", .obj [("Hit", .int 1)])]]
    let r := registryFor samples {}
    (generate samples ⟨"products", {}, false⟩).1 =
        TypeExpr.joinTexts "\n\n" (header "products" :: ["Hit", "A"].map (typeBlock r {})) ++ "\n" ∧
      r.Uses "Hit" "A" ∧ ¬ Before (emissionOrder r.bodies) "A" "Hit" := by
  intro samples r
  have hsorted : ∀ p : String × Shape, Fields.sorted [p] = [p] :=
    fun p => List.mergeSort_singleton p
  have hinner : interfaceText "A" [("Hit", { type := .name "number" })] =
      "export interface A \x7b\n  Hit: number;\n\x7d" := by
    rw [interfaceText, fieldLines, hsorted]
    rfl
  have houter : interfaceText "Hit"
      [("a", { type := .name "A", fields := [("Hit", { type := .name "number" })] })] =
      "export interface Hit \x7b\n  a: A;\n\x7d" := by
    rw [interfaceText, fieldLines, hsorted]
    rfl
  have hbodies : r.bodies = [("A", "export interface A \x7b\n  Hit: number;\n\x7d"),
      ("Hit", "export interface Hit \x7b\n  a: A;\n\x7d")] := by
    rw [← hinner, ← houter]
    rfl
  have horder : emissionOrder r.bodies = ["Hit", "A"] := by
    rw [hbodies]
    decide
  have htext := text_generate samples ⟨"products", {}, false⟩
  refine ⟨?_, by decide, ?_⟩
  · show _ = TypeExpr.joinTexts "\n\n" (header "products" ::
      (genericBlock r ++ ["Hit", "A"].map (typeBlock r {}))) ++ "\n"
    rw [htext, ← horder]
    exact String.append_empty
  · rw [horder]
    decide

end SampleTypes.Declaration
