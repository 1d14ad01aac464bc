import Mathlib.Data.List.Basic
import Mathlib.Logic.Relation
import FormRules.Dependency.Order
import FormRules.Proofs.Dependency.Edges

/-!
# What a walk lists, and in which order

A walk keeps an invariant (`Walk.Sound`): what it has left it has met, each node once; all that depends on a
node which was left has been met; and where a node stands before one that it depends on, the two lie on a
common cycle. `walk_grows` shows that the invariant survives a walk to any node as long as the steps suffice,
and that the walk puts in front exactly what it meets. So for every graph, cyclic or not:

* `reachedFrom` lists what some nodes lead to, and `affectedBy` what they lead to beside them, each node once;
* in both lists a node follows all that it depends on, cycles apart (`affectedBy_exact_and_ordered`).
-/

namespace FormRules.Dependency

namespace Graph

/-- A path of any length. -/
abbrev Leads (g : Graph) : Node → Node → Prop := Relation.ReflTransGen g.Edge

/-- A path of at least one edge. -/
abbrev Reaches (g : Graph) : Node → Node → Prop := Relation.TransGen g.Edge

/-- How many of the nodes with dependents a walk has not met. -/
def unmet (g : Graph) (w : Walk) : Nat := g.dependentsOf.keys.countP fun n => n ∉ w.met

end Graph

namespace Walk

/-- Marks a node as met. -/
def meet (w : Walk) (node : Node) : Walk := { w with met := w.met.insert node }

theorem mem_meet {w : Walk} {node n : Node} : n ∈ (w.meet node).met ↔ n = node ∨ n ∈ w.met := by
  simp only [meet, Std.ExtTreeSet.mem_insert, Std.LawfulEqCmp.compare_eq_iff_eq]
  exact or_congr_left eq_comm

/-- What holds of a walk at any time. -/
structure Sound (g : Graph) (w : Walk) : Prop where
  left_met : ∀ n ∈ w.left, n ∈ w.met
  nodup : w.left.Nodup
  closed : ∀ n ∈ w.left, ∀ d, g.Edge n d → d ∈ w.met
  ordered : w.left.Pairwise fun a b => g.Edge b a → g.Leads a b

/-- A walk to some nodes turns `w` into `w'`: it meets `block` and leaves it, in front of all before. -/
structure Grows (g : Graph) (starts : List Node) (w : Walk) (block : List Node) (w' : Walk) : Prop where
  left_eq : w'.left = block ++ w.left
  mem_met : ∀ n, n ∈ w'.met ↔ n ∈ block ∨ n ∈ w.met
  fresh : ∀ n ∈ block, n ∉ w.met
  led : ∀ n ∈ block, ∃ s ∈ starts, g.Leads s n
  starts_met : ∀ s ∈ starts, s ∈ w'.met
  sound : w'.Sound g

variable {g : Graph} {w w' : Walk} {starts block : List Node}

theorem sound_empty : ({} : Walk).Sound g where
  left_met := by simp
  nodup := List.nodup_nil
  closed := by simp
  ordered := List.Pairwise.nil

theorem Sound.meet (h : w.Sound g) (node : Node) : (w.meet node).Sound g where
  left_met n hn := mem_meet.mpr (.inr (h.left_met n hn))
  nodup := h.nodup
  closed n hn d hd := mem_meet.mpr (.inr (h.closed n hn d hd))
  ordered := h.ordered

theorem Grows.met_mono (h : Grows g starts w block w') {n : Node} (hn : n ∈ w.met) : n ∈ w'.met :=
  (h.mem_met n).mpr (.inr hn)

theorem Grows.trans {rest block' : List Node} {w'' : Walk} {s : Node} (h : Grows g [s] w block w')
    (h' : Grows g rest w' block' w'') : Grows g (s :: rest) w (block' ++ block) w'' where
  left_eq := by rw [h'.left_eq, h.left_eq, List.append_assoc]
  mem_met n := by rw [h'.mem_met, h.mem_met, List.mem_append, or_assoc]
  fresh n hn hmet := by
    rcases List.mem_append.mp hn with hn | hn
    · exact h'.fresh n hn (h.met_mono hmet)
    · exact h.fresh n hn hmet
  led n hn := by
    rcases List.mem_append.mp hn with hn | hn
    · obtain ⟨t, ht, hl⟩ := h'.led n hn
      exact ⟨t, List.mem_cons_of_mem s ht, hl⟩
    · obtain ⟨t, ht, hl⟩ := h.led n hn
      rw [List.mem_singleton] at ht
      exact ⟨t, by simp [ht], hl⟩
  starts_met t ht := by
    rcases List.mem_cons.mp ht with rfl | ht
    · exact h'.met_mono (h.starts_met t (by simp))
    · exact h'.starts_met t ht
  sound := h'.sound

theorem Grows.unmet_le (h : Grows g starts w block w') : g.unmet w' ≤ g.unmet w := by
  refine List.countP_mono_left fun n _ hn => ?_
  rw [decide_eq_true_eq] at hn ⊢
  exact fun hmet => hn (h.met_mono hmet)

theorem unmet_meet_lt {node d : Node} (hnode : node ∉ w.met) (hd : g.Edge node d) :
    g.unmet (w.meet node) < g.unmet w := by
  have hkey : node ∈ g.dependentsOf.keys := Neighbours.Has.mem_keys hd
  have hmono : ∀ n, decide (n ∉ (w.meet node).met) = true → decide (n ∉ w.met) = true := by
    intro n hn
    rw [decide_eq_true_eq] at hn ⊢
    exact fun hmet => hn (mem_meet.mpr (.inr hmet))
  have hnew : decide (node ∉ w.met) = true := by simpa using hnode
  have hold : ¬ decide (node ∉ (w.meet node).met) = true := by simp [mem_meet]
  -- the key itself is counted before and not after
  obtain ⟨l₁, l₂, hl⟩ := List.append_of_mem hkey
  have h₁ := List.countP_mono_left (l := l₁) fun n _ => hmono n
  have h₂ := List.countP_mono_left (l := l₂) fun n _ => hmono n
  unfold Graph.unmet
  rw [hl, List.countP_append, List.countP_append, List.countP_cons, List.countP_cons, if_pos hnew, if_neg hold]
  omega

end Walk

namespace Graph

open Walk

variable {g : Graph}

/-- A walk to several nodes, given what a walk to one of them does. -/
private theorem foldl_walk_grows {steps : Nat}
    (hwalk : ∀ {w : Walk} {node : Node}, w.Sound g → g.unmet w < steps →
      ∃ block, Grows g [node] w block (g.walk steps w node))
    (starts : List Node) {w : Walk} (hw : w.Sound g) (hsteps : ∀ s ∈ starts, g.unmet w < steps) :
    ∃ block, Grows g starts w block (starts.foldl (g.walk steps) w) := by
  induction starts generalizing w with
  | nil => exact ⟨[], rfl, by simp, by simp, by simp, by simp, hw⟩
  | cons s rest ih =>
    have hlt := hsteps s List.mem_cons_self
    obtain ⟨block, h⟩ : ∃ block, Grows g [s] w block (g.walk steps w s) := hwalk hw hlt
    obtain ⟨block', h'⟩ := ih h.sound fun _ _ => Nat.lt_of_le_of_lt h.unmet_le hlt
    exact ⟨block' ++ block, h.trans h'⟩

/-- Leaving a node after all its dependents. -/
private theorem grows_leave {w w' : Walk} {node : Node} {block : List Node} (hw : w.Sound g)
    (hnode : node ∉ w.met) (h : Grows g (g.dependents node) (w.meet node) block w') :
    Grows g [node] w (node :: block) { w' with left := node :: w'.left } := by
  have hself : node ∈ w'.met := h.met_mono (mem_meet.mpr (.inl rfl))
  have hfresh : ∀ n ∈ block, n ≠ node ∧ n ∉ w.met := fun n hn =>
    not_or.mp fun hor => h.fresh n hn (mem_meet.mpr hor)
  have hled : ∀ n ∈ block, g.Leads node n := by
    intro n hn
    obtain ⟨d, hd, hl⟩ := h.led n hn
    exact .head (mem_dependents.mp hd) hl
  have hleft : w'.left = block ++ w.left := h.left_eq
  refine ⟨by simp [hleft], ?_, ?_, ?_, ?_, ⟨?_, ?_, ?_, ?_⟩⟩
  · intro n
    rw [h.mem_met, mem_meet, List.mem_cons]
    tauto
  · intro n hn
    rcases List.mem_cons.mp hn with rfl | hn
    · exact hnode
    · exact (hfresh n hn).2
  · intro n hn
    rcases List.mem_cons.mp hn with rfl | hn
    · exact ⟨n, by simp, .refl⟩
    · exact ⟨node, by simp, hled n hn⟩
  · intro s hs
    rw [List.mem_singleton.mp hs]
    exact hself
  · intro n hn
    rcases List.mem_cons.mp hn with rfl | hn
    · exact hself
    · exact h.sound.left_met n hn
  · refine List.nodup_cons.mpr ⟨fun hn => ?_, h.sound.nodup⟩
    rw [hleft] at hn
    rcases List.mem_append.mp hn with hn | hn
    · exact (hfresh node hn).1 rfl
    · exact hnode (hw.left_met node hn)
  · intro n hn d hd
    rcases List.mem_cons.mp hn with rfl | hn
    · exact h.starts_met d (mem_dependents.mpr hd)
    · exact h.sound.closed n hn d hd
  · refine List.pairwise_cons.mpr ⟨fun b hb hedge => ?_, h.sound.ordered⟩
    rw [hleft] at hb
    -- a node left earlier has only dependents that were met by then, and `node` was not
    rcases List.mem_append.mp hb with hb | hb
    · exact hled b hb
    · exact absurd (hw.closed b hb node hedge) hnode

/-- With enough steps a walk to a node meets it, and keeps the invariant. -/
theorem walk_grows {steps : Nat} {w : Walk} {node : Node} (hw : w.Sound g) (hsteps : g.unmet w < steps) :
    ∃ block, Grows g [node] w block (g.walk steps w node) := by
  induction steps generalizing w node with
  | zero => exact absurd hsteps (Nat.not_lt_zero _)
  | succ steps ih =>
    unfold walk
    split
    · next hmet =>
      rw [Std.ExtTreeSet.contains_iff_mem] at hmet
      exact ⟨[], rfl, by simp, by simp, by simp, by simp [hmet], hw⟩
    · next hmet =>
      rw [Std.ExtTreeSet.contains_iff_mem] at hmet
      have hfewer : ∀ d ∈ g.dependents node, g.unmet (w.meet node) < steps := by
        intro d hd
        have := unmet_meet_lt hmet (mem_dependents.mp hd)
        omega
      obtain ⟨block, h⟩ := foldl_walk_grows ih (g.dependents node) (hw.meet node) hfewer
      exact ⟨node :: block, grows_leave hw hmet h⟩

private theorem reachedFrom_grows (starts : List Node) :
    ∃ block w, Grows g starts {} block w ∧ g.reachedFrom starts = block := by
  have hsteps : g.unmet {} < g.dependentsOf.size + 1 := by
    have hle : g.unmet {} ≤ g.dependentsOf.keys.length := List.countP_le_length
    rw [Std.ExtTreeMap.length_keys] at hle
    omega
  obtain ⟨block, h⟩ := foldl_walk_grows walk_grows starts sound_empty fun _ _ => hsteps
  refine ⟨block, _, h, ?_⟩
  have hleft := h.left_eq
  rwa [List.append_nil] at hleft

/-- A walk from some nodes lists all that they lead to. -/
theorem mem_reachedFrom {starts : List Node} {n : Node} :
    n ∈ g.reachedFrom starts ↔ ∃ s ∈ starts, g.Leads s n := by
  obtain ⟨block, w, h, hblock⟩ := reachedFrom_grows (g := g) starts
  rw [hblock]
  constructor
  · exact h.led n
  · rintro ⟨s, hs, hl⟩
    -- before the walk nothing was met, so all that is met by now has been left
    have hmem : ∀ d, d ∈ w.met → d ∈ block := fun d hd => by simpa using (h.mem_met d).mp hd
    induction hl with
    | refl => exact hmem s (h.starts_met s hs)
    | tail _ hedge ih => exact hmem _ (h.sound.closed _ (by simpa [h.left_eq] using ih) _ hedge)

theorem nodup_reachedFrom (starts : List Node) : (g.reachedFrom starts).Nodup := by
  obtain ⟨block, w, h, hblock⟩ := reachedFrom_grows (g := g) starts
  have := h.sound.nodup
  rwa [hblock, ← List.append_nil block, ← h.left_eq]

theorem ordered_reachedFrom (starts : List Node) :
    (g.reachedFrom starts).Pairwise fun a b => g.Edge b a → g.Leads a b := by
  obtain ⟨block, w, h, hblock⟩ := reachedFrom_grows (g := g) starts
  have := h.sound.ordered
  rwa [hblock, ← List.append_nil block, ← h.left_eq]

/-- The nodes that depend on the changed ones, directly or not, apart from these. -/
theorem mem_affectedBy {changed : List Node} {n : Node} :
    n ∈ g.affectedBy changed ↔ n ∉ changed ∧ ∃ s ∈ changed, g.Reaches s n := by
  simp only [affectedBy, List.mem_filter, mem_reachedFrom, Bool.not_eq_true', List.contains_eq_mem,
    decide_eq_false_iff_not]
  constructor
  · rintro ⟨⟨s, hs, hl⟩, hn⟩
    refine ⟨hn, s, hs, ?_⟩
    rcases Relation.reflTransGen_iff_eq_or_transGen.mp hl with rfl | hr
    · exact absurd hs hn
    · exact hr
  · rintro ⟨hn, s, hs, hr⟩
    exact ⟨⟨s, hs, hr.to_reflTransGen⟩, hn⟩

theorem nodup_affectedBy (changed : List Node) : (g.affectedBy changed).Nodup :=
  (nodup_reachedFrom changed).filter _

/-- A node stands behind what it depends on, unless both lie on a cycle. -/
theorem ordered_affectedBy (changed : List Node) :
    (g.affectedBy changed).Pairwise fun a b => g.Edge b a → g.Leads a b :=
  (ordered_reachedFrom changed).filter _

private theorem idxOf_lt_of_pairwise {nodes : List Node} {R : Node → Node → Prop} (h : nodes.Pairwise R)
    {u v : Node} (hu : u ∈ nodes) (hv : v ∈ nodes) (hne : u ≠ v) (hvu : ¬ R v u) :
    nodes.idxOf u < nodes.idxOf v := by
  have hulen := List.idxOf_lt_length_of_mem hu
  have hvlen := List.idxOf_lt_length_of_mem hv
  rcases Nat.lt_trichotomy (nodes.idxOf u) (nodes.idxOf v) with hlt | heq | hgt
  · exact hlt
  · exact absurd ((List.idxOf_inj hu).mp heq) hne
  · have hR := List.pairwise_iff_getElem.mp h _ _ hvlen hulen hgt
    rw [List.getElem_idxOf hvlen, List.getElem_idxOf hulen] at hR
    exact absurd hR hvu

/-- A path from a node to one that depends on it directly leaves the node, or the node depends on itself. -/
private theorem reaches_of_leads {u v : Node} (hedge : g.Edge u v) (hleads : g.Leads v u) : g.Reaches v u := by
  rcases Relation.reflTransGen_iff_eq_or_transGen.mp hleads with rfl | hreaches
  · exact .single hedge
  · exact hreaches

/-- In any graph, cyclic or not, the nodes to be recomputed are listed once each, they are those that depend on
the changed ones and are not changed themselves, and a node stands in front of what depends on it directly
unless it depends on that in turn. -/
theorem affectedBy_exact_and_ordered (g : Graph) (changed : List Node) :
    (g.affectedBy changed).Nodup ∧
    (∀ n, n ∈ g.affectedBy changed ↔ n ∉ changed ∧ ∃ s ∈ changed, g.Reaches s n) ∧
    ∀ u ∈ g.affectedBy changed, ∀ v ∈ g.affectedBy changed, v ∈ g.dependents u → ¬ g.Reaches v u →
      (g.affectedBy changed).idxOf u < (g.affectedBy changed).idxOf v := by
  refine ⟨nodup_affectedBy changed, fun _ => mem_affectedBy, fun u hu v hv hdependent hcycle => ?_⟩
  have hedge : g.Edge u v := mem_dependents.mp hdependent
  have hne : u ≠ v := by
    rintro rfl
    exact hcycle (.single hedge)
  refine idxOf_lt_of_pairwise (ordered_affectedBy changed) hu hv hne fun hordered => ?_
  exact hcycle (reaches_of_leads hedge (hordered hedge))

/-- The nodes on cycles. -/
theorem isCircular_iff {n : Node} : g.isCircular n = true ↔ g.Reaches n n := by
  simp only [isCircular, List.contains_eq_mem, decide_eq_true_eq, mem_reachedFrom, mem_dependents]
  exact Relation.TransGen.head'_iff.symm

end Graph

end FormRules.Dependency
