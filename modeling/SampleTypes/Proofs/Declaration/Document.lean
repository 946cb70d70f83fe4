import SampleTypes.Declaration.Document
import SampleTypes.Proofs.Declaration.Order
import SampleTypes.Proofs.Except
import SampleTypes.Proofs.Inference.Findings

/-!
# The document exists, and what it is made of

Every name in the emission order is registered, so the declarations of a registry always have a
document.  It consists of what the registry alone gives, `typesText`, and of one block for every
value set.

* `document_emitted`    the document of a registry in its emission order;
* `registryFor`         the registry that some samples lead to;
* `text_generate`       the text for some samples.
-/

namespace SampleTypes

theorem TypeExpr.joinTexts_append (sep : String) (t : String) (ts us : List String) :
    joinTexts sep (t :: ts ++ us) = joinTexts sep (t :: ts) ++ String.join (us.map (sep ++ ·)) := by
  induction ts generalizing t with
  | nil =>
    induction us generalizing t with
    | nil => simp [joinTexts]
    | cons u us ih =>
      show t ++ sep ++ joinTexts sep ([u] ++ us) = t ++ _
      rw [ih u, List.map_cons, String.join_cons, String.append_assoc, String.append_assoc]
      rfl
  | cons u ts ih =>
    show t ++ sep ++ joinTexts sep (u :: ts ++ us) = t ++ sep ++ joinTexts sep (u :: ts) ++ _
    rw [ih, ← String.append_assoc]

namespace Declaration

/-- the declaration of the generic type of id and value, if it is needed -/
def genericBlock (r : Registry) : List String :=
  match r.idValueName with
  | some n => if n = "" then [] else [idValueText n]
  | none => []

/-- the declaration of a registered name -/
def typeBlock (r : Registry) (a : Affixes) (name : String) : String :=
  ((r.get? name).map (declarationBlock a)).getD ""

/-- the document of a registry without value sets -/
def typesText (r : Registry) (indexName : String) (a : Affixes) : String :=
  TypeExpr.joinTexts "\n\n" (header indexName ::
    (genericBlock r ++ (emissionOrder r.bodies).map (typeBlock r a))) ++ "\n"

/-- the declarations of value sets, each after a blank line -/
def valueSetsText (a : Affixes) (sets : List ValueSet) : String :=
  String.join (sets.map fun v => "\n" ++ valueSetText a v ++ "\n")

theorem names_bodies (r : Registry) : Fields.names r.bodies = r.names := by
  rw [Fields.names, Registry.bodies, List.map_map]
  rfl

theorem mem_emissionOrder_bodies {r : Registry} {n : String} :
    n ∈ emissionOrder r.bodies ↔ n ∈ r.names := by
  rw [mem_emissionOrder, names_bodies]

/-- every name in the emission order has a declaration -/
theorem blocks_emitted (r : Registry) (indexName : String) (a : Affixes) (sets : List ValueSet) :
    blocks r (emissionOrder r.bodies) indexName a sets =
      .ok (header indexName :: genericBlock r ++ (emissionOrder r.bodies).map (typeBlock r a) ++
        sets.map (valueSetText a)) := by
  rw [blocks, mapM_eq_ok (g := typeBlock r a)]
  · rfl
  · intro name hname
    obtain ⟨d, _, _, hd⟩ := Registry.exists_get? (mem_emissionOrder_bodies.mp hname)
    rw [typeBlock, hd]
    rfl

theorem join_line_ends (t : String) (ts : List String) :
    t ++ String.join (ts.map ("\n\n" ++ ·)) ++ "\n" =
      t ++ "\n" ++ String.join (ts.map fun u => "\n" ++ u ++ "\n") := by
  induction ts generalizing t with
  | nil => simp
  | cons u ts ih =>
    have e := ih (t ++ "\n\n" ++ u)
    have hends : "\n\n" = "\n" ++ "\n" := rfl
    rw [List.map_cons, List.map_cons, String.join_cons, String.join_cons]
    simpa only [String.append_assoc, hends] using e

/-- the document of a registry in its emission order -/
theorem document_emitted (r : Registry) (indexName : String) (a : Affixes) (sets : List ValueSet) :
    document r (emissionOrder r.bodies) indexName a sets =
      .ok (typesText r indexName a ++ valueSetsText a sets) := by
  rw [document, blocks_emitted]
  show Except.ok (TypeExpr.joinTexts "\n\n" (header indexName ::
    (genericBlock r ++ (emissionOrder r.bodies).map (typeBlock r a)) ++
      sets.map (valueSetText a)) ++ "\n") = _
  rw [TypeExpr.joinTexts_append, join_line_ends, List.map_map]
  rfl

/-- the registry that some samples lead to -/
def registryFor (samples : List Json) (a : Affixes) : Registry :=
  (Infer.infer ⟨a, nullablePaths samples⟩ [] {} (mergeSamples samples).record).2.registry

/-- the text for some samples: that of their registry, and the value sets if they are wanted -/
theorem text_generate (samples : List Json) (t : Target) :
    (generate samples t).1 = typesText (registryFor samples t.affixes) t.indexName t.affixes ++
      valueSetsText t.affixes (if t.enums then (mergeSamples samples).valueSets else []) := by
  show (document (registryFor samples t.affixes)
    (emissionOrder (registryFor samples t.affixes).bodies) _ _ _).toOption.getD "" = _
  rw [document_emitted]
  rfl

end Declaration

end SampleTypes
