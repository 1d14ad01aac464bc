import FormRules.Field

/-!
# Form data and what names stand for

* A name is direct if the form data has a value under it or no field is named so. A direct name stands for the
  value stored under it, or for nothing (`lookup_of_isDirect`), and it stays direct when values are stored.
* A name reads through another key if it stands for a field whose value is found there. Storing a value changes
  what these names stand for and leaves all others but the key as they are.

The fields that a form goes through are those that it has under an id (`FieldMap.mem_toList`, `FieldMap.mem_values`).
-/

namespace FormRules

theorem lt_of_compare {a b : String} (h : compare a b = .lt) : a < b := by
  have h' : compareOfLessAndEq a b = .lt := h
  unfold compareOfLessAndEq at h'
  split at h'
  · assumption
  · split at h' <;> cases h'

section

variable {β : Type} {m : Std.ExtTreeMap String β compare} {key other : String} {value : β}

theorem mem_iff_getElem? : key ∈ m ↔ ∃ value, m[key]? = some value :=
  Std.ExtTreeMap.mem_iff_isSome_getElem?.trans Option.isSome_iff_exists

theorem getElem?_insert_of_ne (h : key ≠ other) : (m.insert key value)[other]? = m[other]? := by
  have hne : compare key other ≠ .eq := fun heq => h (Std.LawfulEqCmp.eq_of_compare heq)
  rw [Std.ExtTreeMap.getElem?_insert, if_neg hne]

theorem getElem?_erase_of_ne (h : key ≠ other) : (m.erase key)[other]? = m[other]? := by
  have hne : compare key other ≠ .eq := fun heq => h (Std.LawfulEqCmp.eq_of_compare heq)
  rw [Std.ExtTreeMap.getElem?_erase, if_neg hne]

/-- What holds of all entries still does when one more is stored, if it holds of that one. -/
theorem forall_getElem?_insert {P : String → β → Prop} (h : ∀ (k : String) (v : β), m[k]? = some v → P k v)
    (hnew : P key value) (k : String) (v : β) (hv : (m.insert key value)[k]? = some v) : P k v := by
  by_cases hk : key = k
  · subst hk
    rw [Std.ExtTreeMap.getElem?_insert_self] at hv
    cases hv
    exact hnew
  · rw [getElem?_insert_of_ne hk] at hv
    exact h k v hv

theorem forall_getElem?_erase {P : String → β → Prop} (h : ∀ (k : String) (v : β), m[k]? = some v → P k v)
    (k : String) (v : β) (hv : (m.erase key)[k]? = some v) : P k v := by
  by_cases hk : key = k
  · subst hk
    rw [Std.ExtTreeMap.getElem?_erase_self] at hv
    cases hv
  · rw [getElem?_erase_of_ne hk] at hv
    exact h k v hv

private theorem values_eq_map_toList : m.values = m.toList.map Prod.snd := by
  obtain ⟨⟨q⟩⟩ := m
  induction q using Quotient.ind with
  | _ t =>
    show t.inner.values = (Std.DTreeMap.Internal.Impl.Const.toList t.inner).map Prod.snd
    rw [Std.DTreeMap.Internal.Impl.values, Std.DTreeMap.Internal.Impl.Const.toList,
      Std.DTreeMap.Internal.Impl.foldr_eq_foldr_toList, Std.DTreeMap.Internal.Impl.foldr_eq_foldr_toList]
    induction t.inner.toList with
    | nil => rfl
    | cons entry rest ih => rw [List.foldr_cons, List.foldr_cons, List.map_cons, ih]

theorem mem_values : value ∈ m.values ↔ ∃ key : String, m[key]? = some value := by
  rw [values_eq_map_toList, List.mem_map]
  constructor
  · rintro ⟨⟨key, v⟩, hentry, rfl⟩
    exact ⟨key, Std.ExtTreeMap.mem_toList_iff_getElem?_eq_some.mp hentry⟩
  · rintro ⟨key, hkey⟩
    exact ⟨(key, value), Std.ExtTreeMap.mem_toList_iff_getElem?_eq_some.mpr hkey, rfl⟩

theorem nodup_keys : m.keys.Nodup :=
  Std.ExtTreeMap.distinct_keys.imp fun hne heq => hne (Std.LawfulEqCmp.compare_eq_iff_eq.mpr heq)

/-- Collecting something from a list without repetitions, where all of it comes from one member. -/
theorem flatMap_eq_of_mem {α γ : Type} {l : List α} {a : α} {f : α → List γ} (hl : l.Nodup) (ha : a ∈ l)
    (h : ∀ b ∈ l, b ≠ a → f b = []) : l.flatMap f = f a := by
  obtain ⟨front, back, rfl⟩ := List.append_of_mem ha
  rw [List.nodup_append, List.nodup_cons] at hl
  have hfront : front.flatMap f = [] := List.flatMap_eq_nil_iff.mpr fun b hb =>
    h b (by simp [hb]) (hl.2.2 b hb a List.mem_cons_self)
  have hback : back.flatMap f = [] := List.flatMap_eq_nil_iff.mpr fun b hb =>
    h b (by simp [hb]) fun heq => hl.2.1.1 (heq ▸ hb)
  rw [List.flatMap_append, List.flatMap_cons, hfront, hback, List.append_nil, List.nil_append]

/-- Collecting something from the values, where all of it comes from the value of one key. -/
theorem flatMap_values {γ : Type} {f : β → List γ}
    (h : ∀ (k : String) (v : β), m[k]? = some v → k ≠ key → f v = []) :
    m.values.flatMap f = m[key]?.elim [] f := by
  rw [values_eq_map_toList, List.flatMap_map]
  have hother : ∀ entry ∈ m.toList, entry.1 ≠ key → f entry.2 = [] := fun entry hentry =>
    h entry.1 entry.2 (Std.ExtTreeMap.mem_toList_iff_getElem?_eq_some.mp hentry)
  cases hv : m[key]? with
  | none =>
    rw [Option.elim_none, List.flatMap_eq_nil_iff]
    intro entry hentry
    refine hother entry hentry ?_
    rintro rfl
    rw [Std.ExtTreeMap.mem_toList_iff_getElem?_eq_some.mp hentry] at hv
    cases hv
  | some v =>
    have hnodup : m.toList.Nodup := Std.ExtTreeMap.distinct_keys_toList.imp fun hne heq =>
      hne (Std.LawfulEqCmp.compare_eq_iff_eq.mpr (congrArg Prod.fst heq))
    refine flatMap_eq_of_mem hnodup (Std.ExtTreeMap.mem_toList_iff_getElem?_eq_some.mpr hv) fun entry hentry hne => ?_
    refine hother entry hentry ?_
    rintro rfl
    rw [Std.ExtTreeMap.mem_toList_iff_getElem?_eq_some.mp hentry] at hv
    exact hne (Prod.ext rfl (Option.some.inj hv))

end

namespace FieldMap

variable {fields : FieldMap} {id name : String} {field : FieldMeta}

theorem mem_toList : (id, field) ∈ fields.toList ↔ fields[id]? = some field := by
  show _ ↔ fields.toList.lookup id = some field
  rw [List.lookup_eq_some_iff]
  constructor
  · intro hmem
    obtain ⟨front, back, heq⟩ := List.append_of_mem hmem
    refine ⟨front, back, heq, fun entry hentry => ?_⟩
    have hdistinct := fields.distinct
    rw [heq, List.map_append, List.nodup_append] at hdistinct
    have hne : entry.1 ≠ id := hdistinct.2.2 _ (List.mem_map_of_mem hentry) _ List.mem_cons_self
    simpa using hne.symm
  · rintro ⟨front, back, heq, -⟩
    rw [heq]
    exact List.mem_append_right front List.mem_cons_self

theorem mem_values : field ∈ fields.values ↔ ∃ id : String, fields[id]? = some field := by
  simp only [values, List.mem_map, Prod.exists, mem_toList, exists_eq_right]

theorem getElem?_insert (other : String) :
    (fields.insert id field)[other]? = if other = id then some field else fields[other]? := by
  refine Option.ext fun found => ?_
  have hmem : (other, found) ∈ (fields.insert id field).toList ↔
      fields[other]? = some found ∧ other ≠ id ∨ other = id ∧ found = field := by
    simp [insert, mem_toList]
  rw [← mem_toList, hmem]
  by_cases hother : other = id
  · simp [hother, eq_comm]
  · simp [hother]

theorem named?_eq_none
    (h : ∀ (id : String) (field : FieldMeta), fields[id]? = some field → field.isNamed name = false) :
    fields.named? name = none := by
  have hown : fields[name]?.filter (·.isNamed name) = none := by
    rw [Option.filter_eq_none_iff]
    intro field hfield
    simp [h name field hfield]
  have hfind : fields.values.find? (·.isNamed name) = none := by
    rw [List.find?_eq_none]
    intro field hfield
    obtain ⟨id, hid⟩ := mem_values.mp hfield
    simp [h id field hid]
  rw [named?, hown, hfind]
  rfl

end FieldMap

namespace FormData

variable {data : FormData} {fields : FieldMap} {name : String}

/-- The data has a value under the name, or no field is named so. -/
def IsDirect (data : FormData) (fields : FieldMap) (name : String) : Prop :=
  name ∈ data ∨ ∀ (id : String) (field : FieldMeta), fields[id]? = some field → field.isNamed name = false

/-- A direct name stands for what is stored under it. -/
theorem lookup_of_isDirect (h : data.IsDirect fields name) :
    data.lookup fields name = data[name]?.getD .null := by
  unfold lookup
  cases hv : data[name]? with
  | some v => rfl
  | none =>
    rcases h with hmem | hno
    · rw [Std.ExtTreeMap.mem_iff_isSome_getElem?, hv] at hmem
      cases hmem
    · rw [FieldMap.named?_eq_none hno]
      rfl

theorem IsDirect.insert (h : data.IsDirect fields name) (key : String) (value : Value) :
    IsDirect (data.insert key value) fields name := by
  rcases h with hmem | hno
  · exact .inl (Std.ExtTreeMap.mem_insert.mpr (.inr hmem))
  · exact .inr hno

/-- A name stands for what is stored under another key, or does so once a value is stored there: it is not a
key of the data, and of the identifiers of its field no other one comes before the key. -/
def ReadsThrough (data : FormData) (fields : FieldMap) (key name : String) : Prop :=
  name ≠ key ∧ name ∉ data ∧ ∃ field, FieldMap.named? fields name = some field ∧
    field.identifiers.find? (fun id => id = key ∨ id ∈ data) = some key

variable {key : String} {value : Value}

private theorem findSome?_insert (ids : List String) : ids.findSome? ((data.insert key value)[·]?) =
    if ids.find? (fun id => id = key ∨ id ∈ data) = some key then some value else ids.findSome? (data[·]?) := by
  induction ids with
  | nil => rfl
  | cons id rest ih =>
    rw [List.findSome?_cons, List.findSome?_cons, List.find?_cons]
    by_cases hid : id = key
    · simp [hid]
    · have hne : key ≠ id := fun heq => hid heq.symm
      rw [getElem?_insert_of_ne hne]
      cases hv : data[id]? with
      | some v =>
        have hmem : id ∈ data := by rw [Std.ExtTreeMap.mem_iff_isSome_getElem?, hv]; rfl
        simp [hmem, hid]
      | none =>
        have hmem : id ∉ data := by rw [Std.ExtTreeMap.mem_iff_isSome_getElem?, hv]; simp
        simpa [hmem, hid] using ih

/-- Storing a value changes what the names stand for that read through the key. -/
theorem lookup_insert_of_readsThrough (h : data.ReadsThrough fields key name) :
    lookup (data.insert key value) fields name = value := by
  obtain ⟨hname, hmem, field, hfield, hfind⟩ := h
  have hv : data[name]? = none := Std.ExtTreeMap.getElem?_eq_none hmem
  rw [lookup, getElem?_insert_of_ne (Ne.symm hname), hv]
  simp only [hfield, Option.bind_some, ofField?, findSome?_insert, hfind, ↓reduceIte, Option.getD_some]

/-- Other names stand for what they did before. -/
theorem lookup_insert_of_not (hname : name ≠ key) (h : ¬ data.ReadsThrough fields key name) :
    lookup (data.insert key value) fields name = data.lookup fields name := by
  rw [lookup, lookup, getElem?_insert_of_ne (Ne.symm hname)]
  cases hv : data[name]? with
  | some v => rfl
  | none =>
    have hmem : name ∉ data := by rw [Std.ExtTreeMap.mem_iff_isSome_getElem?, hv]; simp
    cases hfield : FieldMap.named? fields name with
    | none => rfl
    | some field =>
      have hfind : field.identifiers.find? (fun id => id = key ∨ id ∈ data) ≠ some key := fun hfind =>
        h ⟨hname, hmem, field, hfield, hfind⟩
      simp only [Option.bind_some, ofField?, findSome?_insert, if_neg hfind]

end FormData

end FormRules
