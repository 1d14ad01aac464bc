import Mathlib.Data.List.Sort

/-!
# Stable sorting

A list is a stable sort of another one by a key if its keys do not decrease and the members with any one key stand
in it as they do in the other list (`StableSort`). There is only one such list (`StableSort.unique`), and
`List.mergeSort` finds it (`StableSort.eq_mergeSort`). The relation is kept when both lists are changed alike:

* a new member comes behind all in the list, and behind those in its stable sort whose key is not greater
  (`StableSort.snoc`, `StableSort.append`);
* members are removed, or changed without their keys (`StableSort.filter`, `StableSort.map`).
-/

namespace FormRules

/-- The members of a list in the order of their keys, those with the same key as they stand in the list. -/
structure StableSort {α : Type} (key : α → Int32) (l sorted : List α) : Prop where
  ordered : sorted.Pairwise fun a b => key a ≤ key b
  ties : ∀ k, sorted.filter (fun a => key a = k) = l.filter (fun a => key a = k)

variable {α : Type} {key : α → Int32} {l l' sorted sorted' : List α}

private theorem mem_iff_of_ties (h : ∀ k, l.filter (fun a => key a = k) = l'.filter (fun a => key a = k)) (a : α) :
    a ∈ l ↔ a ∈ l' := by
  have hsame : a ∈ l.filter (fun b => key b = key a) ↔ a ∈ l'.filter (fun b => key b = key a) := by
    rw [h]
  simpa using hsame

theorem StableSort.mem_iff (h : StableSort key l sorted) {a : α} : a ∈ sorted ↔ a ∈ l :=
  mem_iff_of_ties h.ties a

/-- The first of a list that is in order has the least key. -/
private theorem le_of_mem_cons {a b : α} (h : (a :: l).Pairwise fun a b => key a ≤ key b) (hb : b ∈ a :: l) :
    key a ≤ key b := by
  rcases List.mem_cons.mp hb with rfl | hb
  · exact Int32.le_refl _
  · exact (List.pairwise_cons.mp h).1 b hb

/-- Lists that are in order and agree on the members with any one key are the same. -/
private theorem eq_of_ties (h : l.Pairwise fun a b => key a ≤ key b) (h' : l'.Pairwise fun a b => key a ≤ key b)
    (hties : ∀ k, l.filter (fun a => key a = k) = l'.filter (fun a => key a = k)) : l = l' := by
  have hmem := mem_iff_of_ties hties
  induction l generalizing l' with
  | nil =>
    cases l' with
    | nil => rfl
    | cons b rest' => exact absurd ((hmem b).mpr List.mem_cons_self) List.not_mem_nil
  | cons a rest ih =>
    cases l' with
    | nil => exact absurd ((hmem a).mp List.mem_cons_self) List.not_mem_nil
    | cons b rest' =>
      -- both lists begin with the least key, and so with the first member that has it
      have hkey : key a = key b := by
        apply Int32.le_antisymm
        · exact le_of_mem_cons h ((hmem b).mpr List.mem_cons_self)
        · exact le_of_mem_cons h' ((hmem a).mp List.mem_cons_self)
      have hfirst := hties (key a)
      rw [List.filter_cons_of_pos (by simp), List.filter_cons_of_pos (by simp [hkey])] at hfirst
      obtain ⟨rfl, -⟩ := List.cons.inj hfirst
      have hrest : ∀ k, rest.filter (fun c => key c = k) = rest'.filter (fun c => key c = k) := by
        intro k
        have hk := hties k
        by_cases hak : key a = k
        · rw [List.filter_cons_of_pos (by simpa using hak), List.filter_cons_of_pos (by simpa using hak)] at hk
          exact (List.cons.inj hk).2
        · rwa [List.filter_cons_of_neg (by simpa using hak), List.filter_cons_of_neg (by simpa using hak)] at hk
      rw [ih h.of_cons h'.of_cons hrest (mem_iff_of_ties hrest)]

theorem StableSort.unique (h : StableSort key l sorted) (h' : StableSort key l sorted') : sorted = sorted' :=
  eq_of_ties h.ordered h'.ordered fun k => (h.ties k).trans (h'.ties k).symm

/-- A list that is in order need not be sorted. -/
theorem stableSort_self (h : l.Pairwise fun a b => key a ≤ key b) : StableSort key l l := ⟨h, fun _ => rfl⟩

theorem stableSort_mergeSort (key : α → Int32) (l : List α) :
    StableSort key l (l.mergeSort fun a b => key a ≤ key b) := by
  have htrans : ∀ a b c : α, decide (key a ≤ key b) = true → decide (key b ≤ key c) = true →
      decide (key a ≤ key c) = true := by
    intro a b c hab hbc
    simp only [decide_eq_true_eq] at hab hbc ⊢
    exact Int32.le_trans hab hbc
  have htotal : ∀ a b : α, (decide (key a ≤ key b) || decide (key b ≤ key a)) = true := by
    intro a b
    simpa using Int32.le_total (key a) (key b)
  constructor
  · simpa using List.pairwise_mergeSort htrans htotal l
  · intro k
    have hone : (l.filter fun a => key a = k).Pairwise fun a b => decide (key a ≤ key b) = true := by
      apply List.pairwise_of_forall_mem_list
      intro a ha b hb
      simp only [List.mem_filter, decide_eq_true_eq] at ha hb ⊢
      rw [ha.2, hb.2]
      exact Int32.le_refl k
    -- the members with one key are a part of the list that is in order; merge sort keeps it, and adds none to it
    have hsub := (List.sublist_mergeSort htrans htotal hone List.filter_sublist).filter fun a => key a = k
    rw [List.filter_filter] at hsub
    simp only [Bool.and_self] at hsub
    have hperm := (List.mergeSort_perm l fun a b => decide (key a ≤ key b)).filter fun a => decide (key a = k)
    exact (hsub.eq_of_length hperm.length_eq.symm).symm

theorem StableSort.eq_mergeSort (h : StableSort key l sorted) : sorted = l.mergeSort fun a b => key a ≤ key b :=
  h.unique (stableSort_mergeSort key l)

/-- A list that is in order is cut where the keys get greater than a given one. -/
private theorem cut_of_pairwise (h : l.Pairwise fun a b => key a ≤ key b) (k : Int32) :
    l.takeWhile (fun a => key a ≤ k) = l.filter (fun a => key a ≤ k) ∧
      l.dropWhile (fun a => key a ≤ k) = l.filter (fun a => k < key a) := by
  induction l with
  | nil => exact ⟨rfl, rfl⟩
  | cons a rest ih =>
    by_cases ha : key a ≤ k
    · simpa [ha, Int32.not_lt.mpr ha] using ih h.of_cons
    · have hgreater : ∀ b ∈ a :: rest, k < key b := by
        intro b hb
        exact Int32.lt_of_lt_of_le (Int32.not_le.mp ha) (le_of_mem_cons h hb)
      have hnone : (a :: rest).filter (fun b => key b ≤ k) = [] := by
        rw [List.filter_eq_nil_iff]
        intro b hb
        simpa using hgreater b hb
      have hall : (a :: rest).filter (fun b => k < key b) = a :: rest := by
        rw [List.filter_eq_self]
        intro b hb
        simpa using hgreater b hb
      rw [hnone, hall]
      simp [ha]

/-- In a list that is in order a new member comes behind those whose key is not greater, and before the others. -/
theorem orderedInsert_eq_filter (h : l.Pairwise fun a b => key a ≤ key b) (a : α) :
    l.orderedInsert (fun a b => key a < key b) a =
      l.filter (fun b => key b ≤ key a) ++ a :: l.filter (fun b => key a < key b) := by
  obtain ⟨htake, hdrop⟩ := cut_of_pairwise h (key a)
  rw [List.orderedInsert_eq_take_drop, ← htake, ← hdrop]
  simp only [Int32.not_lt]

/-- A list that is in order consists of the members with keys up to a given one and of the others. -/
theorem filter_append_filter (h : l.Pairwise fun a b => key a ≤ key b) (k : Int32) :
    l.filter (fun a => key a ≤ k) ++ l.filter (fun a => k < key a) = l := by
  obtain ⟨htake, hdrop⟩ := cut_of_pairwise h k
  rw [← htake, ← hdrop, List.takeWhile_append_dropWhile]

/-- A member that is added last comes behind those whose key is not greater. -/
theorem StableSort.snoc (h : StableSort key l sorted) (a : α) :
    StableSort key (l ++ [a]) (sorted.orderedInsert (fun a b => key a < key b) a) := by
  rw [orderedInsert_eq_filter h.ordered]
  constructor
  · rw [List.pairwise_append, List.pairwise_cons]
    refine ⟨h.ordered.filter _, ⟨?_, h.ordered.filter _⟩, ?_⟩
    · intro b hb
      simp only [List.mem_filter, decide_eq_true_eq] at hb
      exact Int32.le_of_lt hb.2
    · intro b hb c hc
      simp only [List.mem_filter, List.mem_cons, decide_eq_true_eq] at hb hc
      rcases hc with rfl | hc
      · exact hb.2
      · exact Int32.le_trans hb.2 (Int32.le_of_lt hc.2)
  · intro k
    have hcut := congrArg (List.filter fun b => key b = k) (filter_append_filter h.ordered (key a))
    rw [List.filter_append, h.ties k] at hcut
    rw [List.filter_append, List.filter_append, ← hcut]
    by_cases hk : key a = k
    · have hnone : (sorted.filter fun b => key a < key b).filter (fun b => key b = k) = [] := by
        rw [List.filter_eq_nil_iff]
        intro b hb
        simp only [List.mem_filter, decide_eq_true_eq] at hb ⊢
        rintro rfl
        exact Int32.ne_of_lt hb.2 hk
      rw [List.filter_cons_of_pos (by simpa using hk), hnone]
      simp [hk]
    · rw [List.filter_cons_of_neg (by simpa using hk)]
      simp [hk]

/-- Members that are added one after the other. -/
theorem StableSort.append (h : StableSort key l sorted) (added : List α) :
    StableSort key (l ++ added)
      (added.foldl (fun sorted a => sorted.orderedInsert (fun a b => key a < key b) a) sorted) := by
  induction added generalizing l sorted with
  | nil => rwa [List.append_nil]
  | cons a rest ih =>
    rw [List.append_cons]
    exact ih (h.snoc a)

theorem StableSort.filter (h : StableSort key l sorted) (p : α → Bool) :
    StableSort key (l.filter p) (sorted.filter p) := by
  constructor
  · exact h.ordered.filter p
  · intro k
    rw [List.filter_comm, h.ties, List.filter_comm]

/-- Members may be changed in their places, if they keep their keys. -/
theorem StableSort.map (h : StableSort key l sorted) {f : α → α} (hf : ∀ a ∈ l, key (f a) = key a) :
    StableSort key (l.map f) (sorted.map f) := by
  have hfilter : ∀ l' : List α, (∀ a ∈ l', key (f a) = key a) → ∀ k,
      (l'.map f).filter (fun a => key a = k) = (l'.filter fun a => key a = k).map f := by
    intro l' hl' k
    rw [List.filter_map]
    congr 1
    apply List.filter_congr
    intro a ha
    simp [hl' a ha]
  have hf' : ∀ a ∈ sorted, key (f a) = key a := by
    intro a ha
    exact hf a (h.mem_iff.mp ha)
  constructor
  · rw [List.pairwise_map]
    apply h.ordered.imp_of_mem
    intro a b ha hb hab
    rwa [hf' a ha, hf' b hb]
  · intro k
    rw [hfilter sorted hf', hfilter l hf, h.ties]

end FormRules
