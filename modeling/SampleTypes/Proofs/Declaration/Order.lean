import SampleTypes.Proofs.Declaration.Search

/-!
# The order of declarations

* `Graph.IsOrder`        what an order from some roots is: it is left by a search that ends, holds
                         what the roots lead to, each name once, and a name stands after those it
                         refers to unless they lead back to it;
* `isOrder_orderFrom`    the order of a graph from some roots is one;
* `order_eq_nodes`       nodes that stand in order already stay as they are;
* `order_ofBodies`       all this for the references between declarations;
* `mem_emissionOrder`    the order of all declarations holds the declared names.
-/

namespace SampleTypes.Declaration

namespace Graph

/-- what an order of the names that some roots lead to is -/
structure IsOrder (g : Graph) (roots result : List String) : Prop where
  searched : g.Searched [] [] (roots.filter g.contains) result
  unique : ∀ other, g.Searched [] [] (roots.filter g.contains) other → other = result
  nodup : result.Nodup
  mem_iff : ∀ n, n ∈ result ↔ ∃ r ∈ roots, r ∈ g.nodes ∧ g.Reaches r n
  inOrder : ∀ a ∈ result, ∀ b ∈ g.dependencies a, Before result b a ∨ g.Reaches b a

variable {g : Graph}

theorem mem_known {roots : List String} {r : String} :
    r ∈ roots.filter g.contains ↔ r ∈ roots ∧ r ∈ g.nodes := by
  rw [List.mem_filter, contains, List.contains_iff_mem]

/-- what a name leads to is in a list that holds it and all that its items refer to -/
theorem Reaches.mem {xs : List String} (hxs : ∀ a ∈ xs, ∀ b ∈ g.dependencies a, b ∈ xs)
    {a b : String} (h : g.Reaches a b) (ha : a ∈ xs) : b ∈ xs := by
  induction h with
  | refl => exact ha
  | tail _ hc ih => exact hxs _ ih _ hc

theorem searched_orderFrom (hg : g.Closed) (roots : List String) :
    g.Searched [] [] (roots.filter g.contains) (g.orderFrom roots) := by
  have hknown : roots.filter g.contains ⊆ g.nodes := fun r hr => (mem_known.mp hr).2
  apply searched_foldl hg List.nodup_nil (List.nil_subset _) hknown
  rw [List.length_nil]
  omega

theorem isOrder_orderFrom (hg : g.Closed) (roots : List String) :
    g.IsOrder roots (g.orderFrom roots) := by
  have hs := searched_orderFrom hg roots
  have hin : g.InOrder (g.orderFrom roots) := hs.inOrder (by simp) (by simp [InOrder])
  have hclosed : ∀ a ∈ g.orderFrom roots, ∀ b ∈ g.dependencies a, b ∈ g.orderFrom roots := by
    intro a ha b hb
    exact (hs.closed (by simp) a ha b hb).resolve_right (by simp)
  refine ⟨hs, fun other ho => ho.unique hs, hs.nodup List.nodup_nil, fun n => ?_, hin⟩
  constructor
  · intro hn
    obtain ⟨r, hr, hrn⟩ := (hs.reached n hn).resolve_left (by simp)
    obtain ⟨hr, hnode⟩ := mem_known.mp hr
    exact ⟨r, hr, hnode, hrn⟩
  · rintro ⟨r, hr, hnode, hrn⟩
    have hmem : r ∈ g.orderFrom roots :=
      (hs.mem r (mem_known.mpr ⟨hr, hnode⟩)).resolve_left (by simp)
    exact hrn.mem hclosed hmem

theorem filter_contains_nodes (g : Graph) : g.nodes.filter g.contains = g.nodes :=
  List.filter_eq_self.mpr fun _ hn => List.contains_iff_mem.mpr hn

theorem mem_order_none (hg : g.Closed) {n : String} : n ∈ g.order none ↔ n ∈ g.nodes := by
  have hmem := (isOrder_orderFrom hg g.nodes).mem_iff n
  constructor
  · intro hn
    obtain ⟨r, hr, _, hrn⟩ := hmem.mp hn
    exact hrn.mem (fun a _ b hb => hg a b hb) hr
  · intro hn
    exact hmem.mpr ⟨n, hn, hn, .refl g n⟩

/-- nodes that stand in order already stay as they are -/
theorem order_eq_nodes (hg : g.Closed) (hn : g.nodes.Nodup)
    (h : ∀ a ∈ g.nodes, ∀ b ∈ g.dependencies a, Before g.nodes b a) : g.order none = g.nodes := by
  have hplace : g.Searched [] [] g.nodes ([] ++ g.nodes) := by
    apply searched_inPlace hn
    intro l n r e d hd
    have hb : Before (l ++ n :: r) d n := e ▸ h n (by rw [e]; simp) d hd
    rw [e] at hn
    exact hb.mem_of_split hn
  have hs : g.Searched [] [] g.nodes (g.order none) := by
    have := searched_orderFrom hg g.nodes
    rwa [filter_contains_nodes] at this
  exact hs.unique hplace

end Graph

/-- The order of declarations by the references between them, from any roots: what it is in
general, without circles, from all names, and for names that stand in order already. -/
theorem order_ofBodies {bodies : List (String × String)} (hn : (Fields.names bodies).Nodup)
    (roots : Option (List String)) :
    let g := Graph.ofBodies bodies
    g.IsOrder (roots.getD (Fields.names bodies)) (g.order roots) ∧
      ((∀ n, ¬ Relation.TransGen g.Refers n n) →
        ∀ a ∈ g.order roots, ∀ b ∈ g.dependencies a, Before (g.order roots) b a) ∧
      (g.order none).Perm (Fields.names bodies) ∧
      ((∀ a ∈ Fields.names bodies, ∀ b ∈ g.dependencies a, Before (Fields.names bodies) b a) →
        g.order none = Fields.names bodies) := by
  intro g
  have hg : g.Closed := Graph.closed_ofBodies bodies
  have hnodes : g.nodes = Fields.names bodies := Graph.nodes_ofBodies bodies
  rw [← hnodes] at hn ⊢
  have horder : g.IsOrder (roots.getD g.nodes) (g.order roots) := Graph.isOrder_orderFrom hg _
  have hall : g.IsOrder g.nodes (g.order none) := Graph.isOrder_orderFrom hg _
  refine ⟨horder, fun hacyclic a ha b hb => ?_, ?_, Graph.order_eq_nodes hg hn⟩
  · rcases horder.inOrder a ha b hb with h | h
    · exact h
    · exact absurd (Relation.TransGen.head' hb h) (hacyclic a)
  · exact (List.perm_ext_iff_of_nodup hall.nodup hn).mpr fun n => Graph.mem_order_none hg

/-- two declarations refer to each other, and one of them to a third one; others stand in order -/
theorem order_ofBodies_circle :
    let bodies := [("A", "A: B[] | X"), ("B", "B: A, C"), ("C", "C: string")]
    let sorted := [("C", "C: string"), ("B", "B: C[]"), ("A", "A: B | C")]
    (Fields.names bodies).Nodup ∧
      (Graph.ofBodies bodies).IsOrder ["B", "X", "B"]
        ((Graph.ofBodies bodies).order (some ["B", "X", "B"])) ∧
      ((Graph.ofBodies bodies).order none).Perm ["A", "B", "C"] ∧
      Before ((Graph.ofBodies sorted).order (some ["A"])) "B" "A" ∧
      (Graph.ofBodies sorted).order none = ["C", "B", "A"] := by
  intro bodies sorted
  have hn : (Fields.names bodies).Nodup := by decide
  have hsorted : (Fields.names sorted).Nodup := by decide
  have hplace : ∀ a ∈ Fields.names sorted, ∀ b ∈ (Graph.ofBodies sorted).dependencies a,
      Before (Fields.names sorted) b a := by decide
  have hrefers : ∀ a b, (Graph.ofBodies sorted).Refers a b → Before (Fields.names sorted) b a := by
    intro a b hab
    have ha : a ∈ Fields.names sorted := by
      rw [← Graph.nodes_ofBodies]
      exact Graph.mem_nodes_of_mem_dependencies hab
    exact hplace a ha b hab
  obtain ⟨horder, _, hperm, _⟩ := order_ofBodies hn (some ["B", "X", "B"])
  obtain ⟨hin, hacyclic, _, hstays⟩ := order_ofBodies hsorted (some ["A"])
  have hroot : "A" ∈ (Graph.ofBodies sorted).order (some ["A"]) :=
    (hin.mem_iff "A").mpr ⟨"A", by decide, by decide, .refl _ "A"⟩
  have hbefore := hacyclic (Before.acyclic hsorted hrefers) "A" hroot "B" (by decide)
  exact ⟨hn, horder, hperm, hbefore, hstays hplace⟩

/-- the order of all declarations holds the declared names -/
theorem mem_emissionOrder {n : String} {bodies : List (String × String)} :
    n ∈ emissionOrder bodies ↔ n ∈ Fields.names bodies := by
  rw [← Graph.nodes_ofBodies]
  exact Graph.mem_order_none (Graph.closed_ofBodies bodies)

end SampleTypes.Declaration
