import SampleTypes.Shape.Basic

/-!
# The registry of declared types

Declarations in the order of their registration, and the name of the generic type of id and
value once it is needed.  The first declaration of a name stays; a later one is not taken.

* `names`, `bodies`      the views of a registry, in order;
* `get? n`               the declaration of a name;
* `register d`, `registerIdValue n`.
-/

namespace SampleTypes

/-- a record type: its name, the shapes of its fields, and the text that declares it -/
structure TypeDecl where
  name : String
  fields : List (String × Shape)
  body : String
  deriving Inhabited

structure Registry where
  declarations : List TypeDecl := []
  idValueName : Option String := none
  deriving Inhabited

namespace Registry

def names (r : Registry) : List String := r.declarations.map (·.name)

/-- the texts of the declarations by name -/
def bodies (r : Registry) : List (String × String) := r.declarations.map fun d => (d.name, d.body)

def contains (r : Registry) (name : String) : Bool := r.declarations.any (·.name == name)

def size (r : Registry) : Nat := r.declarations.length

/-- the declaration of a name -/
def get? (r : Registry) (name : String) : Option TypeDecl :=
  r.declarations.find? (·.name == name)

/-- the registry with a declaration, unless its name is taken -/
def register (r : Registry) (d : TypeDecl) : Registry :=
  if r.contains d.name then r else { r with declarations := r.declarations ++ [d] }

/-- the registry with the generic type of id and value, which keeps its first name -/
def registerIdValue (r : Registry) (name : String) : Registry :=
  { r with idValueName := some (r.idValueName.getD name) }

theorem contains_eq_true_iff {r : Registry} {name : String} :
    r.contains name = true ↔ name ∈ r.names := by
  simp [contains, names, List.any_eq_true]

theorem names_register (r : Registry) (d : TypeDecl) :
    (r.register d).names = if d.name ∈ r.names then r.names else r.names ++ [d.name] := by
  by_cases h : d.name ∈ r.names
  · have hc : r.contains d.name = true := contains_eq_true_iff.mpr h
    simp [register, hc, h]
  · have hc : r.contains d.name = false :=
      Bool.eq_false_iff.mpr fun hc => h (contains_eq_true_iff.mp hc)
    rw [if_neg h]
    simp [register, hc, names]

theorem isSome_get? {r : Registry} {name : String} :
    (r.get? name).isSome = r.contains name := by
  rw [Bool.eq_iff_iff]
  simp [get?, contains, List.find?_isSome]

theorem exists_get? {r : Registry} {name : String} (h : name ∈ r.names) :
    ∃ d ∈ r.declarations, d.name = name ∧ r.get? name = some d := by
  obtain ⟨d, hd⟩ := Option.isSome_iff_exists.mp (isSome_get?.trans (contains_eq_true_iff.mpr h))
  have hname : (d.name == name) = true :=
    List.find?_some (p := fun d : TypeDecl => d.name == name) hd
  exact ⟨d, List.mem_of_find?_eq_some hd, beq_iff_eq.mp hname, hd⟩

end Registry

end SampleTypes
