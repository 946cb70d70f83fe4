import Mathlib.Data.List.Nodup
import Mathlib.Data.List.Perm.Subperm
import Mathlib.Logic.Relation
import SampleTypes.Declaration.Order
import SampleTypes.Proofs.Fields

/-!
# The search for an order

The search is told without a bound on its steps, as a relation between the names put in order
before it and after it.

* `Before xs a b`       `a` stands before `b` in a list; `Before.acyclic` rules circles out;
* `Graph.Reaches`       one name leads to another along references;
* `Graph.Searched`      a search from some names, and what it leaves in order;
* `searched_foldl`      every search ends: as many steps as there are nodes are enough;
* `Searched.unique`     a search has one result only;
* `Searched.nodup`, `Searched.reached`, `Searched.closed`, `Searched.inOrder`   what it keeps.

An edge to a name that is still being visited is passed over.  Such a name leads to the one that
is visited now, which is all that `Searched.inOrder` has to know about the names pending.
-/

namespace SampleTypes.Declaration

/-- `a` stands before `b` in the list -/
def Before (xs : List String) (a b : String) : Prop := [a, b].Sublist xs

instance (xs : List String) (a b : String) : Decidable (Before xs a b) :=
  inferInstanceAs (Decidable ([a, b].Sublist xs))

namespace Before

theorem mono {xs ys : List String} (hs : xs.Sublist ys) {a b : String} (h : Before xs a b) :
    Before ys a b := List.Sublist.trans h hs

theorem concat {xs : List String} {a : String} (h : a ∈ xs) (b : String) :
    Before (xs ++ [b]) a b := by
  have ha : [a].Sublist xs := List.singleton_sublist.mpr h
  exact ha.append (List.Sublist.refl [b])

/-- what stands before an item that occurs once is in the part in front of it -/
theorem mem_of_split {l r : List String} {a b : String} (hn : (l ++ b :: r).Nodup)
    (h : Before (l ++ b :: r) a b) : a ∈ l := by
  have hb : b ∉ r := (List.nodup_cons.mp (List.nodup_append.mp hn).2.1).1
  obtain ⟨l₁, l₂, e, h₁, h₂⟩ := List.sublist_append_iff.mp h
  cases l₁ with
  | nil =>
    have e' : [a, b] = l₂ := e
    rw [← e'] at h₂
    have ht : [b].Sublist r := h₂.tail
    exact absurd (List.singleton_sublist.mp ht) hb
  | cons x l₁ =>
    have hx : a = x := (List.cons.inj e).1
    exact hx ▸ h₁.subset List.mem_cons_self

theorem idxOf_lt {xs : List String} (hn : xs.Nodup) {a b : String} (h : Before xs a b) :
    xs.idxOf a < xs.idxOf b := by
  have hb : b ∈ xs := h.subset (by simp)
  obtain ⟨l, r, rfl⟩ := List.append_of_mem hb
  have hal : a ∈ l := h.mem_of_split hn
  have hbl : b ∉ l := fun hm => (List.nodup_append.mp hn).2.2 b hm b List.mem_cons_self rfl
  rw [List.idxOf_append_of_mem hal, List.idxOf_append_of_notMem hbl]
  have hlt : l.idxOf a < l.length := List.idxOf_lt_length_iff.mpr hal
  omega

theorem ne {xs : List String} (hn : xs.Nodup) {a b : String} (h : Before xs a b) : a ≠ b := by
  rintro rfl
  exact Nat.lt_irrefl _ (h.idxOf_lt hn)

/-- no circle in a relation between items of a list each of which comes after those it is related
to: the positions get less -/
theorem acyclic {xs : List String} (hn : xs.Nodup) {R : String → String → Prop}
    (h : ∀ a b, R a b → Before xs b a) (a : String) : ¬ Relation.TransGen R a a := by
  intro hc
  have hless : ∀ {b}, Relation.TransGen R a b → xs.idxOf b < xs.idxOf a := by
    intro b hb
    induction hb with
    | single hab => exact (h _ _ hab).idxOf_lt hn
    | tail _ hbc ih => exact Nat.lt_trans ((h _ _ hbc).idxOf_lt hn) ih
  exact Nat.lt_irrefl _ (hless hc)

end Before

namespace Graph

/-- names refer to nodes only -/
def Closed (g : Graph) : Prop := ∀ n, ∀ d ∈ g.dependencies n, d ∈ g.nodes

theorem mem_references {names : List String} {name body n : String} :
    n ∈ references names name body ↔ n ∈ identifiers body ∧ n ≠ name ∧ n ∈ names := by
  rw [references, mem_distinct, List.mem_filter, Bool.and_eq_true, bne_iff_ne,
    List.contains_iff_mem]

/-- what a name refers to is read off its text -/
theorem dependencies_ofBodies {bodies : List (String × String)} (hn : (Fields.names bodies).Nodup)
    {name body : String} (h : (name, body) ∈ bodies) :
    (ofBodies bodies).dependencies name = references (Fields.names bodies) name body := by
  have hnames : Fields.names (ofBodies bodies).edges = Fields.names bodies := nodes_ofBodies bodies
  have hedge : (name, references (Fields.names bodies) name body) ∈ (ofBodies bodies).edges :=
    List.mem_map.mpr ⟨(name, body), h, rfl⟩
  rw [← hnames] at hn
  rw [dependencies, Fields.lookup_eq_some_of_mem hn hedge]
  rfl

theorem exists_of_mem_dependencies {g : Graph} {a b : String} (h : b ∈ g.dependencies a) :
    ∃ ds, g.edges.lookup a = some ds ∧ b ∈ ds := by
  rw [dependencies] at h
  cases hl : g.edges.lookup a with
  | none => simp [hl] at h
  | some ds =>
    rw [hl] at h
    exact ⟨ds, rfl, h⟩

/-- only nodes refer to anything -/
theorem mem_nodes_of_mem_dependencies {g : Graph} {a b : String} (h : b ∈ g.dependencies a) :
    a ∈ g.nodes := by
  obtain ⟨ds, hl, _⟩ := exists_of_mem_dependencies h
  exact Fields.mem_names_of_lookup hl

theorem closed_ofBodies (bodies : List (String × String)) : (ofBodies bodies).Closed := by
  intro n d hd
  obtain ⟨ds, hl, hd⟩ := exists_of_mem_dependencies hd
  obtain ⟨p, _, e⟩ := List.mem_map.mp (Fields.mem_of_lookup hl)
  obtain ⟨_, rfl⟩ := Prod.mk.inj e
  rw [nodes_ofBodies]
  exact (mem_references.mp hd).2.2

def Refers (g : Graph) (a b : String) : Prop := b ∈ g.dependencies a

/-- a name leads to another one along references, or is that name -/
def Reaches (g : Graph) : String → String → Prop := Relation.ReflTransGen g.Refers

theorem Reaches.refl (g : Graph) (a : String) : g.Reaches a a := Relation.ReflTransGen.refl

theorem Reaches.tail {g : Graph} {a b c : String} (h : g.Reaches a b)
    (hc : c ∈ g.dependencies b) : g.Reaches a c := Relation.ReflTransGen.tail h hc

theorem Reaches.head {g : Graph} {a b c : String} (hb : b ∈ g.dependencies a)
    (h : g.Reaches b c) : g.Reaches a c := Relation.ReflTransGen.head hb h

/-- `Searched g pending ordered names result`: a search from each of `names`, while the visits of
`pending` go on, leads from the names in order before it to those after it -/
inductive Searched (g : Graph) : List String → List String → List String → List String → Prop
  | done (pending ordered : List String) : Searched g pending ordered [] ordered
  | skip {pending ordered names result : List String} {n : String}
      (h : n ∈ pending ∨ n ∈ ordered) (rest : Searched g pending ordered names result) :
      Searched g pending ordered (n :: names) result
  | visit {pending ordered found names result : List String} {n : String}
      (hp : n ∉ pending) (ho : n ∉ ordered)
      (below : Searched g (n :: pending) ordered (g.dependencies n) found)
      (rest : Searched g pending (found ++ [n]) names result) :
      Searched g pending ordered (n :: names) result

section
variable {g : Graph} {pending ordered names result : List String}

/-- every search ends: a visit goes on for each pending name, so the steps that are left are as
many as there are nodes that are not pending -/
theorem searched_foldl (hg : g.Closed) {steps : Nat} (hnodup : pending.Nodup)
    (hpending : pending ⊆ g.nodes) (hnames : names ⊆ g.nodes)
    (hsteps : g.nodes.length < steps + pending.length) :
    Searched g pending ordered names (names.foldl (g.visit steps pending) ordered) := by
  induction steps generalizing pending ordered names with
  | zero =>
    have hle : pending.length ≤ g.nodes.length :=
      (List.subperm_of_subset hnodup hpending).length_le
    omega
  | succ steps ih =>
    induction names generalizing ordered with
    | nil => exact .done pending ordered
    | cons n names ihn =>
      obtain ⟨hn, hnames⟩ := List.cons_subset.mp hnames
      rw [List.foldl_cons]
      have rest : Searched g pending (g.visit (steps + 1) pending ordered n) names _ := ihn hnames
      by_cases hseen : n ∈ pending ∨ n ∈ ordered
      · have hvisit : g.visit (steps + 1) pending ordered n = ordered := by
          rw [Graph.visit, if_pos (by simpa using hseen)]
        rw [hvisit] at rest ⊢
        exact .skip hseen rest
      · obtain ⟨hp, ho⟩ := not_or.mp hseen
        have hvisit : g.visit (steps + 1) pending ordered n =
            (g.dependencies n).foldl (g.visit steps (n :: pending)) ordered ++ [n] := by
          rw [Graph.visit, if_neg (by simpa using hseen)]
        rw [hvisit] at rest ⊢
        refine .visit hp ho (ih ?_ ?_ (hg n) ?_) rest
        · exact List.nodup_cons.mpr ⟨hp, hnodup⟩
        · exact List.cons_subset.mpr ⟨hn, hpending⟩
        · rw [List.length_cons]
          omega

theorem Searched.unique {other : List String} (h : Searched g pending ordered names result)
    (h' : Searched g pending ordered names other) : result = other := by
  induction h generalizing other with
  | done =>
    cases h' with
    | done => rfl
  | skip hseen _ ih =>
    cases h' with
    | skip _ rest => exact ih rest
    | visit hp ho _ _ => exact absurd hseen (not_or.mpr ⟨hp, ho⟩)
  | visit hp ho _ _ ih₁ ih₂ =>
    cases h' with
    | skip hseen _ => exact absurd hseen (not_or.mpr ⟨hp, ho⟩)
    | visit _ _ below rest =>
      obtain rfl := ih₁ below
      exact ih₂ rest

/-- the names in order keep their places -/
theorem Searched.grows (h : Searched g pending ordered names result) : ordered <+: result := by
  induction h with
  | done => exact List.prefix_refl _
  | skip _ _ ih => exact ih
  | visit _ _ _ _ ih₁ ih₂ => exact (ih₁.trans (List.prefix_append _ _)).trans ih₂

theorem Searched.mem (h : Searched g pending ordered names result) :
    ∀ n ∈ names, n ∈ pending ∨ n ∈ result := by
  induction h with
  | done => simp
  | skip hseen rest ih =>
    exact List.forall_mem_cons.mpr ⟨hseen.imp_right fun ho => rest.grows.subset ho, ih⟩
  | visit _ _ _ rest _ ih =>
    exact List.forall_mem_cons.mpr ⟨.inr (rest.grows.subset (by simp)), ih⟩

/-- no pending name is put in order -/
theorem Searched.fresh (h : Searched g pending ordered names result) :
    ∀ x ∈ result, x ∈ ordered ∨ x ∉ pending := by
  induction h with
  | done => exact fun x hx => .inl hx
  | skip _ _ ih => exact ih
  | visit hp _ _ _ ih₁ ih₂ =>
    intro x hx
    rcases ih₂ x hx with hx | hx
    · rcases List.mem_append.mp hx with hx | hx
      · exact (ih₁ x hx).imp_right fun hx hm => hx (List.mem_cons_of_mem _ hm)
      · exact .inr (List.mem_singleton.mp hx ▸ hp)
    · exact .inr hx

theorem Searched.nodup (h : Searched g pending ordered names result) (ho : ordered.Nodup) :
    result.Nodup := by
  induction h with
  | done => exact ho
  | skip _ _ ih => exact ih ho
  | @visit pending ordered found names result n hp hn below rest ih₁ ih₂ =>
    have hfresh : n ∉ found := by
      intro hm
      rcases below.fresh n hm with h | h
      · exact hn h
      · exact h List.mem_cons_self
    apply ih₂
    refine List.nodup_append.mpr ⟨ih₁ ho, List.nodup_singleton n, ?_⟩
    intro a ha b hb e
    rw [List.mem_singleton.mp hb] at e
    exact hfresh (e ▸ ha)

theorem Searched.reached (h : Searched g pending ordered names result) :
    ∀ x ∈ result, x ∈ ordered ∨ ∃ n ∈ names, g.Reaches n x := by
  induction h with
  | done => exact fun x hx => .inl hx
  | @skip pending ordered names result n _ _ ih =>
    intro x hx
    rcases ih x hx with hx | ⟨m, hm, hx⟩
    · exact .inl hx
    · exact .inr ⟨m, List.mem_cons_of_mem _ hm, hx⟩
  | @visit pending ordered found names result n _ _ _ _ ih₁ ih₂ =>
    intro x hx
    rcases ih₂ x hx with hx | ⟨m, hm, hx⟩
    · rcases List.mem_append.mp hx with hx | hx
      · rcases ih₁ x hx with hx | ⟨d, hd, hx⟩
        · exact .inl hx
        · exact .inr ⟨n, List.mem_cons_self, hx.head hd⟩
      · obtain rfl := List.mem_singleton.mp hx
        exact .inr ⟨x, List.mem_cons_self, .refl g x⟩
    · exact .inr ⟨m, List.mem_cons_of_mem _ hm, hx⟩

/-- what a name in order refers to is in order too, or pending -/
theorem Searched.closed (h : Searched g pending ordered names result)
    (ho : ∀ a ∈ ordered, ∀ b ∈ g.dependencies a, b ∈ ordered ∨ b ∈ pending) :
    ∀ a ∈ result, ∀ b ∈ g.dependencies a, b ∈ result ∨ b ∈ pending := by
  induction h with
  | done => exact ho
  | skip _ _ ih => exact ih ho
  | @visit pending ordered found names result n _ _ below _ ih₁ ih₂ =>
    have hfound : ∀ a ∈ found, ∀ b ∈ g.dependencies a, b ∈ found ∨ b ∈ n :: pending := by
      refine ih₁ fun a ha b hb => ?_
      exact (ho a ha b hb).imp_right (List.mem_cons_of_mem _)
    have hadd : ∀ b, b ∈ found ∨ b ∈ n :: pending → b ∈ found ++ [n] ∨ b ∈ pending := by
      intro b hb
      simp only [List.mem_cons, List.mem_append, List.not_mem_nil, or_false] at hb ⊢
      rw [or_assoc]
      exact hb
    apply ih₂
    intro a ha b hb
    rcases List.mem_append.mp ha with ha | ha
    · exact hadd b (hfound a ha b hb)
    · obtain rfl := List.mem_singleton.mp ha
      exact hadd b (below.mem b hb).symm

/-- a name stands after those it refers to, unless they lead back to it -/
def InOrder (g : Graph) (xs : List String) : Prop :=
  ∀ a ∈ xs, ∀ b ∈ g.dependencies a, Before xs b a ∨ g.Reaches b a

theorem Searched.inOrder (h : Searched g pending ordered names result)
    (hpending : ∀ p ∈ pending, ∀ n ∈ names, g.Reaches p n) (ho : g.InOrder ordered) :
    g.InOrder result := by
  induction h with
  | done => exact ho
  | skip _ _ ih => exact ih (fun p hp n hn => hpending p hp n (List.mem_cons_of_mem _ hn)) ho
  | @visit pending ordered found names result n _ _ below _ ih₁ ih₂ =>
    have hn : ∀ p ∈ n :: pending, g.Reaches p n := by
      refine List.forall_mem_cons.mpr ⟨.refl g n, fun p hp => ?_⟩
      exact hpending p hp n List.mem_cons_self
    have hfound : g.InOrder found := ih₁ (fun p hp d hd => (hn p hp).tail hd) ho
    refine ih₂ (fun p hp m hm => hpending p hp m (List.mem_cons_of_mem _ hm)) ?_
    intro a ha b hb
    rcases List.mem_append.mp ha with ha | ha
    · exact (hfound a ha b hb).imp_left (Before.mono (List.sublist_append_left _ _))
    · obtain rfl := List.mem_singleton.mp ha
      rcases below.mem b hb with hb | hb
      · exact .inr (hn b hb)
      · exact .inl (Before.concat hb a)

/-! ## names that are in order from the start -/

theorem searched_seen (h : ∀ n ∈ names, n ∈ ordered) :
    Searched g pending ordered names ordered := by
  induction names with
  | nil => exact .done pending ordered
  | cons n names ih =>
    obtain ⟨hn, hnames⟩ := List.forall_mem_cons.mp h
    exact .skip (.inr hn) (ih hnames)

theorem searched_inPlace (hn : (ordered ++ names).Nodup)
    (h : ∀ l n r, names = l ++ n :: r → ∀ d ∈ g.dependencies n, d ∈ ordered ++ l) :
    Searched g [] ordered names (ordered ++ names) := by
  induction names generalizing ordered with
  | nil =>
    rw [List.append_nil]
    exact .done [] ordered
  | cons n names ih =>
    have e : ordered ++ n :: names = (ordered ++ [n]) ++ names := by simp
    have hfresh : n ∉ ordered := by
      intro hm
      exact (List.nodup_append.mp hn).2.2 n hm n List.mem_cons_self rfl
    have below : Searched g [n] ordered (g.dependencies n) ordered := by
      apply searched_seen
      intro d hd
      simpa using h [] n names rfl d hd
    refine .visit (by simp) hfresh below ?_
    rw [e] at hn ⊢
    refine ih hn fun l m r hnames d hd => ?_
    have hm := h (n :: l) m r (by rw [hnames, List.cons_append]) d hd
    simpa using hm

end

end Graph

end SampleTypes.Declaration
