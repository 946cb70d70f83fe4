import SampleTypes.Proofs.Declaration.Document
import SampleTypes.Proofs.Declaration.Identifiers

/-!
# What declarations mention, and what the search takes for a mention

A declaration mentions a name if the name is in the type of one of its fields.  The search knows the
texts only, and takes an identifier in a key for a mention too.

* `TypeDecl.Mentions d n`     the types of the fields have the name in them;
* `TypeDecl.Spells d n`       the keys of the fields have the name among their identifiers;
* `mem_identifiers_body`      the identifiers of a declaration's text come from its own name, its
                              keys and the names in its types;
* `emissionOrder_eq_names`    a registry whose declarations hold earlier names only is emitted in
                              the order of registration.
-/

namespace SampleTypes

open Declaration

def TypeDecl.Mentions (d : TypeDecl) (n : String) : Prop := ∃ f ∈ d.fields, n ∈ f.2.type.names

def TypeDecl.Spells (d : TypeDecl) (n : String) : Prop :=
  ∃ f ∈ d.fields, n ∈ identifiers (keyText f.1)

instance (d : TypeDecl) (n : String) : Decidable (d.Mentions n) :=
  inferInstanceAs (Decidable (∃ f ∈ d.fields, n ∈ f.2.type.names))

instance (d : TypeDecl) (n : String) : Decidable (d.Spells n) :=
  inferInstanceAs (Decidable (∃ f ∈ d.fields, n ∈ identifiers (keyText f.1)))

/-- a declared name whose declaration mentions another declared name -/
def Registry.Uses (r : Registry) (a b : String) : Prop :=
  b ∈ r.names ∧ ∃ d ∈ r.declarations, d.name = a ∧ d.Mentions b

instance (r : Registry) (a b : String) : Decidable (r.Uses a b) :=
  inferInstanceAs (Decidable (b ∈ r.names ∧ ∃ d ∈ r.declarations, d.name = a ∧ d.Mentions b))

namespace Registry

section
variable {r : Registry} {before after : List TypeDecl} {d : TypeDecl}

theorem names_split (e : r.declarations = before ++ d :: after) :
    r.names = before.map (·.name) ++ d.name :: after.map (·.name) := by
  rw [names, e, List.map_append, List.map_cons]

theorem names_before_subset (e : r.declarations = before ++ d :: after) :
    before.map (·.name) ⊆ r.names := by
  rw [names_split e]
  exact List.subset_append_left _ _

theorem before_of_split (e : r.declarations = before ++ d :: after) {n : String}
    (hn : n ∈ before.map (·.name)) : Before r.names n d.name := by
  have hnames : r.names = (before.map (·.name) ++ [d.name]) ++ after.map (·.name) := by
    rw [names_split e, List.append_assoc, List.singleton_append]
  rw [hnames]
  exact (Before.concat hn d.name).mono (List.sublist_append_left _ _)

end

end Registry

namespace Declaration

theorem mem_identifiers_field {n : String} (hn : IsTypeName n) (f : String × Shape) :
    n ∈ identifiers (keyText f.1) ++ identifiers (fieldType f.2) ↔
      n ∈ identifiers (keyText f.1) ∨ ∃ m ∈ f.2.type.names, n ∈ identifiers m := by
  have hnull : n ∉ nullWords f.2 := by
    intro hm
    have hsmall : n ≠ "null" := hn.ne_of_small (by decide)
    exact hsmall (List.mem_singleton.mp (nullWords_subset f.2 hm))
  rw [identifiers_fieldType, List.mem_append, List.mem_append, or_iff_left hnull, List.mem_flatMap]

/-- what stands in the text of a declaration, apart from the words that all declarations share -/
theorem mem_identifiers_body {d : TypeDecl} (hd : d.body = interfaceText d.name d.fields)
    {n : String} (hn : IsTypeName n) :
    n ∈ identifiers d.body ↔
      n ∈ identifiers d.name ∨ d.Spells n ∨ ∃ m, d.Mentions m ∧ n ∈ identifiers m := by
  have hwords : n ∉ ["export", "interface"] := by
    have h₁ : n ≠ "export" := hn.ne_of_small (by decide)
    have h₂ : n ≠ "interface" := hn.ne_of_small (by decide)
    simp [h₁, h₂]
  have hmentions : (∃ m, d.Mentions m ∧ n ∈ identifiers m) ↔
      ∃ f ∈ d.fields, ∃ m ∈ f.2.type.names, n ∈ identifiers m := by
    constructor
    · rintro ⟨m, ⟨f, hf, hm⟩, hnm⟩
      exact ⟨f, hf, m, hm, hnm⟩
    · rintro ⟨f, hf, m, hm, hnm⟩
      exact ⟨m, ⟨f, hf, hm⟩, hnm⟩
  have hfields : (∃ f ∈ Fields.sorted d.fields,
      n ∈ identifiers (keyText f.1) ++ identifiers (fieldType f.2)) ↔
      d.Spells n ∨ ∃ m, d.Mentions m ∧ n ∈ identifiers m := by
    rw [hmentions, TypeDecl.Spells, ← exists_or]
    refine exists_congr fun f => ?_
    rw [(Fields.perm_sorted d.fields).mem_iff, mem_identifiers_field hn, and_or_left]
  rw [hd, identifiers_interfaceText, List.mem_append, List.mem_append, or_iff_right hwords,
    List.mem_flatMap, hfields]

section
variable {r : Registry}

theorem mem_dependencies (hn : r.names.Nodup) {d : TypeDecl} (hd : d ∈ r.declarations)
    {n : String} : n ∈ (Graph.ofBodies r.bodies).dependencies d.name ↔
      n ∈ identifiers d.body ∧ n ≠ d.name ∧ n ∈ r.names := by
  have hbody : (d.name, d.body) ∈ r.bodies := List.mem_map.mpr ⟨d, hd, rfl⟩
  rw [← names_bodies] at hn ⊢
  rw [Graph.dependencies_ofBodies hn hbody, Graph.mem_references]

/-- declarations whose texts hold, besides their own, earlier names only are emitted in the order
of registration -/
theorem emissionOrder_eq_names (hn : r.names.Nodup)
    (h : ∀ before d after, r.declarations = before ++ d :: after → ∀ n ∈ identifiers d.body,
      n ∈ r.names → n ≠ d.name → n ∈ before.map (·.name)) : emissionOrder r.bodies = r.names := by
  have hnodes : (Graph.ofBodies r.bodies).nodes = r.names := by
    rw [Graph.nodes_ofBodies, names_bodies]
  rw [emissionOrder, ← hnodes]
  apply Graph.order_eq_nodes (Graph.closed_ofBodies _)
  · rw [hnodes]
    exact hn
  · intro a ha b hb
    rw [hnodes] at ha ⊢
    obtain ⟨d, hd, rfl⟩ := List.mem_map.mp ha
    obtain ⟨hscan, hne, hname⟩ := (mem_dependencies hn hd).mp hb
    obtain ⟨before, after, e⟩ := List.append_of_mem hd
    have hbefore : b ∈ before.map (·.name) := h before d after e b hscan hname hne
    exact Registry.before_of_split e hbefore

end

end Declaration

end SampleTypes
