import FormRules.Proofs.Dependency.Walk

/-!
# Cycles

A node is circular if it leads to itself along at least one edge (`isCircular_iff`). Whether it does can also be told
by a search that keeps the nodes still to be looked at and takes the one found last (`finds`). The search starts
from the dependents of the node and does not count the node itself as met, so that it can be found again. It
ends since each node that is met for the first time takes its edges out of those still open and leaves as many
nodes to be looked at (`openEdges_meet`), and it finds what the nodes to be looked at lead to (`finds_iff`) because
all dependents of a met node are met or still to be looked at.

`circularNodes` lists the circular nodes of a balanced graph in ascending order (`Balanced.mem_circularNodes`,
`ascending_circularNodes`).
-/

namespace FormRules.Dependency.Graph

/-- How many edges lead out of nodes that were not met. -/
def openEdges (g : Graph) (met : NodeSet) : Nat :=
  ((g.dependentsOf.keys.filter (· ∉ met)).flatMap g.dependents).length

variable {g : Graph} {met : NodeSet} {node target : Node}

/-- Meeting a node closes its edges and opens none. -/
private theorem length_open_meet (hnode : node ∉ met) (nodes : List Node) :
    ((nodes.filter (· ∉ met.insert node)).flatMap g.dependents).length +
        (if node ∈ nodes then (g.dependents node).length else 0) ≤
      ((nodes.filter (· ∉ met)).flatMap g.dependents).length := by
  induction nodes with
  | nil => simp
  | cons first rest ih =>
    have hmem : first ∈ met.insert node ↔ first = node ∨ first ∈ met := Walk.mem_meet (w := { met })
    by_cases hfirst : first = node
    · subst hfirst
      rw [List.filter_cons_of_neg (by simp [hmem]), List.filter_cons_of_pos (by simpa using hnode),
        if_pos List.mem_cons_self, List.flatMap_cons, List.length_append]
      omega
    · have hrest : node ∈ first :: rest ↔ node ∈ rest := by
        rw [List.mem_cons, or_iff_right (Ne.symm hfirst)]
      simp only [hrest]
      by_cases hmet : first ∈ met
      · rwa [List.filter_cons_of_neg (by simp [hmem, hmet]), List.filter_cons_of_neg (by simpa using hmet)]
      · rw [List.filter_cons_of_pos (by simp [hmem, hfirst, hmet]), List.filter_cons_of_pos (by simpa using hmet),
          List.flatMap_cons, List.length_append, List.flatMap_cons, List.length_append]
        omega

theorem openEdges_meet (hnode : node ∉ met) :
    g.openEdges (met.insert node) + (g.dependents node).length ≤ g.openEdges met := by
  have hopen := length_open_meet (g := g) hnode g.dependentsOf.keys
  by_cases hkey : node ∈ g.dependentsOf.keys
  · rwa [if_pos hkey] at hopen
  · have hnone : g.dependents node = [] := by
      rw [List.eq_nil_iff_forall_not_mem]
      intro d hd
      exact hkey (Neighbours.Has.mem_keys (mem_dependents.mp hd))
    rw [if_neg hkey] at hopen
    rwa [hnone]

/-- Looks for a node among some nodes and all that depends on them. The nodes found last are looked at first. -/
def finds (g : Graph) (target : Node) (met : NodeSet) : List Node → Bool
  | [] => false
  | node :: pending =>
    if node = target then true
    else if node ∈ met then g.finds target met pending
    else g.finds target (met.insert node) ((g.dependents node).reverse ++ pending)
termination_by pending => g.openEdges met + pending.length
decreasing_by
  · rw [List.length_cons]
    omega
  · have hclosed : g.openEdges (met.insert node) + (g.dependents node).length ≤ g.openEdges met :=
      openEdges_meet ‹_›
    rw [List.length_append, List.length_reverse, List.length_cons]
    omega

/-- What a met node leads to is also led to by a node that is still to be looked at, if it was not met itself. -/
private theorem exists_pending {pending : List Node} (htarget : target ∉ met)
    (hclosed : ∀ n ∈ met, ∀ d, g.Edge n d → d ∈ met ∨ d ∈ pending) (hnode : node ∈ met)
    (hleads : g.Leads node target) : ∃ n ∈ pending, g.Leads n target := by
  induction hleads using Relation.ReflTransGen.head_induction_on with
  | refl => exact absurd hnode htarget
  | head hedge hrest ih =>
    rcases hclosed _ hnode _ hedge with hmet | hpending
    · exact ih hmet
    · exact ⟨_, hpending, hrest⟩

theorem finds_iff {pending : List Node} (htarget : target ∉ met)
    (hclosed : ∀ n ∈ met, ∀ d, g.Edge n d → d ∈ met ∨ d ∈ pending) :
    g.finds target met pending = true ↔ ∃ n ∈ pending, g.Leads n target := by
  fun_induction finds g target met pending with
  | case1 met => simp
  | case2 met pending =>
    refine iff_of_true rfl ⟨target, List.mem_cons_self, .refl⟩
  | case3 met node pending hne hmet ih =>
    have hclosed' : ∀ n ∈ met, ∀ d, g.Edge n d → d ∈ met ∨ d ∈ pending := by
      intro n hn d hd
      rcases hclosed n hn d hd with hd | hd
      · exact .inl hd
      · rcases List.mem_cons.mp hd with rfl | hd
        · exact .inl hmet
        · exact .inr hd
    rw [ih htarget hclosed']
    constructor
    · rintro ⟨n, hn, hleads⟩
      exact ⟨n, List.mem_cons_of_mem node hn, hleads⟩
    · rintro ⟨n, hn, hleads⟩
      rcases List.mem_cons.mp hn with rfl | hn
      · exact exists_pending htarget hclosed' hmet hleads
      · exact ⟨n, hn, hleads⟩
  | case4 met node pending hne hmet ih =>
    have hmem : ∀ n, n ∈ met.insert node ↔ n = node ∨ n ∈ met := fun n => Walk.mem_meet (w := { met })
    have htarget' : target ∉ met.insert node := by
      rw [hmem]
      rintro (rfl | hmet)
      · exact hne rfl
      · exact htarget hmet
    have hclosed' : ∀ n ∈ met.insert node, ∀ d, g.Edge n d →
        d ∈ met.insert node ∨ d ∈ (g.dependents node).reverse ++ pending := by
      intro n hn d hd
      simp only [hmem, List.mem_append, List.mem_reverse, mem_dependents] at hn ⊢
      rcases hn with rfl | hn
      · exact .inr (.inl hd)
      · rcases hclosed n hn d hd with hd | hd
        · exact .inl (.inr hd)
        · rcases List.mem_cons.mp hd with rfl | hd
          · exact .inl (.inl rfl)
          · exact .inr (.inr hd)
    rw [ih htarget' hclosed']
    -- the node is another one than the target, so a path between them leaves it by one of its edges
    have hnode : g.Leads node target ↔ ∃ d, g.Edge node d ∧ g.Leads d target :=
      Relation.ReflTransGen.cases_head_iff.trans (or_iff_right hne)
    simp only [List.mem_append, List.mem_reverse, mem_dependents, List.mem_cons, or_and_right, exists_or,
      exists_eq_left, hnode]

/-- The search from the dependents of a node ends, and finds the node if and only if it is circular. -/
theorem isCircular_eq_finds (g : Graph) (node : Node) :
    g.isCircular node = g.finds node ∅ (g.dependents node).reverse := by
  have hcycle : g.Reaches node node ↔ ∃ d ∈ (g.dependents node).reverse, g.Leads d node := by
    simp only [List.mem_reverse, mem_dependents]
    exact Relation.TransGen.head'_iff
  rw [Bool.eq_iff_iff, isCircular_iff, finds_iff (by simp) (by simp), hcycle]

/-- A node is listed if and only if it leads to itself. -/
theorem Balanced.mem_circularNodes (h : g.Balanced) : node ∈ g.circularNodes ↔ g.Reaches node node := by
  rw [circularNodes, List.mem_filter, isCircular_iff, and_iff_right_iff_imp]
  intro hcycle
  obtain ⟨p, -, hedge⟩ := Relation.TransGen.tail'_iff.mp hcycle
  exact ((h.transposed p node).mp hedge).mem_keys

theorem ascending_circularNodes (g : Graph) : g.circularNodes.Pairwise fun a b => compare a b = .lt :=
  Std.ExtTreeMap.ordered_keys.filter _

theorem nodup_circularNodes (g : Graph) : g.circularNodes.Nodup := by
  refine (ascending_circularNodes g).imp ?_
  rintro a _ hlt rfl
  have hself : compare a a = .eq := Std.ReflCmp.compare_self
  rw [hself] at hlt
  cases hlt

end FormRules.Dependency.Graph
