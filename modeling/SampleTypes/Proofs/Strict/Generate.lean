import SampleTypes.Proofs.Declaration.Document
import SampleTypes.Proofs.Strict.Infer

/-!
# The document, if nothing is made up

From the samples to the text, with the search for an order of declarations failing when its steps
are used up, and the document when a name is not registered.

* `visit_eq`, `order_eq`   the search comes to an end within its steps;
* `generate`               the document for some samples;
* `generate_succeeds`      the main statement: it does not fail for samples that are records, or
                           for a single sample of any kind.
-/

namespace SampleTypes.Strict

open Declaration

/-! ## the search for an order -/

def visit (g : Graph) : Nat → List String → List String → String → Except Fault (List String)
  | 0, _, _, _ => .error .endless
  | steps + 1, pending, ordered, name =>
    if pending.contains name || ordered.contains name then .ok ordered
    else do
      let found ← (g.dependencies name).foldlM (visit g steps (name :: pending)) ordered
      return found ++ [name]

def order (g : Graph) (roots : Option (List String)) : Except Fault (List String) :=
  ((roots.getD g.nodes).filter g.contains).foldlM (visit g (g.nodes.length + 1) []) []

/-- a visit goes on for each pending name, and there are no more of these than nodes -/
theorem visit_eq {g : Graph} (hg : g.Closed) {steps : Nat} {pending : List String} {name : String}
    (hname : name ∈ g.nodes) (hnodup : pending.Nodup) (hpending : pending ⊆ g.nodes)
    (hsteps : g.nodes.length < steps + pending.length) (ordered : List String) :
    visit g steps pending ordered name = .ok (g.visit steps pending ordered name) := by
  induction steps generalizing pending name ordered with
  | zero =>
    have hle : pending.length ≤ g.nodes.length :=
      (List.subperm_of_subset hnodup hpending).length_le
    omega
  | succ steps ih =>
    rw [visit, Graph.visit]
    by_cases hseen : (pending.contains name || ordered.contains name) = true
    · rw [if_pos hseen, if_pos hseen]
    rw [if_neg hseen, if_neg hseen]
    have hp : name ∉ pending := by
      intro hm
      exact hseen (by simp [hm])
    have hnodup' : (name :: pending).Nodup := List.nodup_cons.mpr ⟨hp, hnodup⟩
    have hpending' : name :: pending ⊆ g.nodes := List.cons_subset.mpr ⟨hname, hpending⟩
    have hsteps' : g.nodes.length < steps + (name :: pending).length := by
      rw [List.length_cons]
      omega
    have hbelow : ∀ d ∈ g.dependencies name, ∀ found,
        visit g steps (name :: pending) found d = .ok (g.visit steps (name :: pending) found d) :=
      fun d hd found => ih (hg name d hd) hnodup' hpending' hsteps' found
    rw [foldlM_eq_ok hbelow]
    rfl

theorem order_eq {g : Graph} (hg : g.Closed) (roots : Option (List String)) :
    order g roots = .ok (g.order roots) := by
  refine foldlM_eq_ok (fun name hname ordered => ?_) []
  have hnode : name ∈ g.nodes := List.contains_iff_mem.mp (List.mem_filter.mp hname).2
  refine visit_eq hg hnode List.nodup_nil (List.nil_subset _) ?_ ordered
  rw [List.length_nil]
  omega

/-! ## the document -/

def generate (samples : List Json) (target : Target) : Except Fault (String × Log) := do
  let merged ← mergeSamples samples
  let settings : Settings := ⟨target.affixes, ← nullablePaths samples⟩
  let (root, progress) ← infer settings [] {} merged.record
  let registry := progress.registry
  let entry := inferred root.type.text registry.size samples.length
  let valueSets := if target.enums then merged.valueSets else []
  let names ← order (Graph.ofBodies registry.bodies) none
  let text ← (document registry names target.indexName target.affixes valueSets).mapError
    Fault.unregistered
  return (text, progress.log ++ [entry])

/-- Samples that are records, however many, or a single sample of any kind have a document: no walk
lacks a first pair, item or value, meets a value of no kind, runs out of steps or asks for a name
that is not registered. -/
theorem generate_succeeds {samples : List Json} (target : Target)
    (h : (∀ v ∈ samples, v.isRecord = true) ∨ samples.length = 1) :
    generate samples target = .ok (Declaration.generate samples target) := by
  have hclosed := Graph.closed_ofBodies (registryFor samples target.affixes).bodies
  have hdocument := document_emitted (registryFor samples target.affixes) target.indexName
    target.affixes (if target.enums then (SampleTypes.mergeSamples samples).valueSets else [])
  rw [generate, mergeSamples_eq h, nullablePaths_eq h]
  show infer ⟨target.affixes, SampleTypes.nullablePaths samples⟩ [] {} _ >>= _ = _
  rw [infer_eq]
  show order (Graph.ofBodies (registryFor samples target.affixes).bodies) none >>= _ = _
  rw [order_eq hclosed]
  show (document (registryFor samples target.affixes)
    (emissionOrder (registryFor samples target.affixes).bodies) _ _ _).mapError _ >>= _ = _
  rw [hdocument]
  refine congrArg Except.ok (Prod.ext ?_ rfl)
  exact (text_generate samples target).symm

/-- pairs, null in one of several records, and a name that is taken twice; and a single number -/
theorem generate_succeeds_pairs :
    let pairs : Json := .arr [.obj [("id", .str "u"), ("value", .obj [("x", .null)])]]
    let samples : List Json := [
      .obj [("a", pairs), ("b", .obj [("x", .arr [.int 1, .str "s"])])],
      .obj [("a", .null), ("b", .obj [("b", .obj []), ("x", .arr [])])]]
    let target : Target := ⟨"products", ⟨"P_", "$"⟩, true⟩
    (∀ v ∈ samples, v.isRecord = true) ∧
      generate samples target = .ok (Declaration.generate samples target) ∧
      generate [.int 7] target = .ok (Declaration.generate [.int 7] target) := by
  intro pairs samples target
  have hrecords : ∀ v ∈ samples, v.isRecord = true := by decide
  exact ⟨hrecords, generate_succeeds target (.inl hrecords), generate_succeeds target (.inr rfl)⟩

/-- several samples that are not all records have no document -/
example : generate [.obj [], .int 7] ⟨"products", {}, false⟩ = .error .noRecord := rfl

end SampleTypes.Strict
