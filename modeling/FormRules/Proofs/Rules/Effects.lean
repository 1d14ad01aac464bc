import FormRules.Proofs.Rules.Independence

/-!
# What a cascade reports and what it writes

Recomputing fields reports one result for each of them, in their order, and what is reported is written
(`fieldIds_recomputeAll`, `recomputeAll_data_eq`). Each result is that of the field's formula on the form with all
earlier results written (`eq_resultOn_of_recomputeAll`), also where fields of a cycle read values that are overwritten
later, and where a formula in between fails. As the affected fields are different ones, the form holds each reported
value in the end, and what it held before under every other key (`applyChange_exact`).
-/

namespace FormRules.Registry

open Formula (Context)

/-- What is reported of a field that is computed on a form. -/
def resultOn (r : Registry) (ctx : Context) (fieldId : String) : CalculatedValue :=
  ⟨fieldId, r.freshValue ctx fieldId, r.textOf fieldId (r.freshValue ctx fieldId)⟩

/-- A form with some results written, one after the other. -/
def written (ctx : Context) (results : List CalculatedValue) : Context :=
  { ctx with data := results.foldl (fun data result => data.insert result.fieldId result.value) ctx.data }

variable {r : Registry} {ctx : Context} {results : List CalculatedValue}

theorem written_cons (result : CalculatedValue) :
    written ctx (result :: results) = written (written ctx [result]) results :=
  rfl

/-- The first field is computed on the form as it is, and the others on the form that has its result. -/
theorem recomputeAll_cons (r : Registry) (ctx : Context) (id : String) (rest : List String) : ∃ engine,
    let others := Registry.recomputeAll { r with engine } (written ctx [r.resultOn ctx id]) rest
    r.recomputeAll ctx (id :: rest) = (r.resultOn ctx id :: others.1, others.2) := by
  obtain ⟨engine, hr⟩ : ∃ engine, (r.rawValue ctx id).2 = { r with engine } := rawValue_snd id
  obtain ⟨last, hlast⟩ : ∃ last, (Registry.recomputeAll { r with engine }
      (written ctx [r.resultOn ctx id]) rest).2.2 = { r with engine := last } := recomputeAll_registry rest
  have hcons : r.recomputeAll ctx (id :: rest) =
      let value := (r.rawValue ctx id).1.getD .null
      let others := (r.rawValue ctx id).2.recomputeAll { ctx with data := ctx.data.insert id value } rest
      (⟨id, value, others.2.2.textOf id value⟩ :: others.1, others.2) := rfl
  refine ⟨engine, ?_⟩
  rw [hcons, hr, rawValue_fst]
  -- the text is made with the registry as it is in the end, which has the formats it had before
  refine Prod.ext (congrArg₂ List.cons ?_ rfl) rfl
  have htext : Registry.textOf { r with engine := last } id (r.freshValue ctx id) =
      r.textOf id (r.freshValue ctx id) := rfl
  rw [resultOn, ← htext, ← hlast]
  rfl

theorem fieldIds_recomputeAll (r : Registry) (ctx : Context) (ids : List String) :
    (r.recomputeAll ctx ids).1.map (·.fieldId) = ids := by
  induction ids generalizing r ctx with
  | nil => rfl
  | cons id rest ih =>
    obtain ⟨engine, hcons⟩ := recomputeAll_cons r ctx id rest
    rw [hcons, List.map_cons, ih]
    rfl

/-- What is reported is written, and nothing else. -/
theorem recomputeAll_data_eq (r : Registry) (ctx : Context) (ids : List String) :
    (r.recomputeAll ctx ids).2.1 = (written ctx (r.recomputeAll ctx ids).1).data := by
  induction ids generalizing r ctx with
  | nil => rfl
  | cons id rest ih =>
    obtain ⟨engine, hcons⟩ := recomputeAll_cons r ctx id rest
    rw [hcons, written_cons]
    exact ih _ _

/-- Each field is computed on the form with all earlier results written. -/
theorem eq_resultOn_of_recomputeAll {ids : List String} {front back : List CalculatedValue} {result : CalculatedValue}
    (h : (r.recomputeAll ctx ids).1 = front ++ result :: back) :
    result = r.resultOn (written ctx front) result.fieldId := by
  induction ids generalizing r ctx front with
  | nil => simp [recomputeAll] at h
  | cons id rest ih =>
    obtain ⟨engine, hcons⟩ := recomputeAll_cons r ctx id rest
    rw [hcons] at h
    cases front with
    | nil =>
      obtain ⟨rfl, -⟩ := List.cons.inj h
      rfl
    | cons first front =>
      obtain ⟨rfl, hrest⟩ := List.cons.inj h
      rw [written_cons]
      exact ih (r := { r with engine }) hrest

theorem getElem?_written_of_not_mem {key : String} (h : key ∉ results.map (·.fieldId)) :
    (written ctx results).data[key]? = ctx.data[key]? := by
  induction results generalizing ctx with
  | nil => rfl
  | cons result rest ih =>
    rw [List.map_cons, List.mem_cons, not_or] at h
    rw [written_cons, ih h.2]
    exact getElem?_insert_of_ne (Ne.symm h.1)

theorem getElem?_written_of_mem (hnodup : (results.map (·.fieldId)).Nodup) {result : CalculatedValue}
    (h : result ∈ results) : (written ctx results).data[result.fieldId]? = some result.value := by
  induction results generalizing ctx with
  | nil => cases h
  | cons first rest ih =>
    rw [List.map_cons, List.nodup_cons] at hnodup
    rw [written_cons]
    rcases List.mem_cons.mp h with rfl | hrest
    · rw [getElem?_written_of_not_mem hnodup.1]
      exact Std.ExtTreeMap.getElem?_insert_self
    · exact ih hnodup.2 hrest

/-- A calculated field is reported with the value of its formula, or with null and an empty text if the formula
fails. -/
theorem resultOn_spec {fieldId : String} {field : CalculationField} (hfield : r.calculation? fieldId = some field)
    (ctx : Context) :
    match Formula.resultOf ctx field.formula with
    | .ok value => (r.resultOn ctx fieldId).value = value ∧
        (r.resultOn ctx fieldId).display = Display.render field.format value
    | .error _ => (r.resultOn ctx fieldId).value = .null ∧ (r.resultOn ctx fieldId).display = "" := by
  rw [resultOn, freshValue, textOf, hfield, Option.elim_some, formulaValue]
  cases Formula.resultOf ctx field.formula with
  | ok value => exact ⟨rfl, rfl⟩
  | error e => exact ⟨rfl, rfl⟩

/-- The fields that a change affects are reported once each and in their order, also on cycles and where formulas fail:
each with the value of its formula on the form with the earlier results written, and the text that shows it, or with
null and an empty text if the formula fails. Afterwards the form holds under each of them just the reported value, and
under all other keys, the changed one included, what it held before; of the registry only the engine is another
one. -/
theorem applyChange_exact (r : Registry) (ctx : Context) (changed : String) :
    let (results, data, after) := r.applyChange ctx changed
    results.map (·.fieldId) = r.affectedFields changed ∧ (r.affectedFields changed).Nodup ∧
      (∀ result ∈ results, data[result.fieldId]? = some result.value) ∧
      (∀ key, key ∉ r.affectedFields changed → data[key]? = ctx.data[key]?) ∧
      data[changed]? = ctx.data[changed]? ∧
      (∀ front result back, results = front ++ result :: back →
        ∃ field, r.calculation? result.fieldId = some field ∧
          match Formula.resultOf (written ctx front) field.formula with
          | .ok value => result.value = value ∧ result.display = Display.render field.format value
          | .error _ => result.value = .null ∧ result.display = "") ∧
      ∃ engine, after = { r with engine } := by
  have hids := fieldIds_recomputeAll r ctx (r.affectedFields changed)
  have hdata := recomputeAll_data_eq r ctx (r.affectedFields changed)
  have hregistry : ∃ engine, (r.recomputeAll ctx (r.affectedFields changed)).2.2 = { r with engine } :=
    recomputeAll_registry (r.affectedFields changed)
  have hresult : ∀ front result back, (r.recomputeAll ctx (r.affectedFields changed)).1 = front ++ result :: back →
      result = r.resultOn (written ctx front) result.fieldId := fun _ _ _ => eq_resultOn_of_recomputeAll
  have hnodup := nodup_affectedFields r changed
  unfold applyChange
  generalize r.recomputeAll ctx (r.affectedFields changed) = outcome at hids hdata hregistry hresult
  obtain ⟨results, data, after⟩ := outcome
  dsimp only at hids hdata hregistry hresult ⊢
  have hframe : ∀ key, key ∉ r.affectedFields changed → data[key]? = ctx.data[key]? := by
    intro key hkey
    rw [hdata]
    exact getElem?_written_of_not_mem (hids.symm ▸ hkey)
  refine ⟨hids, hnodup, ?_, hframe, ?_, ?_, hregistry⟩
  · intro result hmem
    rw [hdata]
    exact getElem?_written_of_mem (hids.symm ▸ hnodup) hmem
  · exact hframe changed fun hmem => (mem_affectedFields.mp hmem).2.1 rfl
  · intro front result back hsplit
    have hmem : result.fieldId ∈ r.affectedFields changed := by
      rw [← hids, hsplit]
      exact List.mem_map_of_mem (by simp)
    obtain ⟨field, hfield⟩ := Option.isSome_iff_exists.mp (mem_affectedFields.mp hmem).1
    have hreported := resultOn_spec hfield (written ctx front)
    rw [← hresult front result back hsplit] at hreported
    exact ⟨field, hfield, hreported⟩

/-- Of two fields on a cycle the first reads the old value of the second; one formula divides by zero, and the field
that reads its result goes on with nothing. -/
example :
    let r := (({} : Registry).registerCalculation "left" "[x]+[right]" .realtime {})
      |>.registerCalculation "right" "[left]*2" .realtime {}
      |>.registerCalculation "inverse" "1/[x]" .realtime {}
      |>.registerCalculation "next" "[inverse]+1" .realtime {}
    let data : FormData := .ofList ([("x", 0), ("left", 7), ("right", 5), ("inverse", 7)].map fun (k, n) =>
      (k, Value.number (.ofNat n)))
    let (results, data, _) := r.applyChange ⟨data, ∅, .ofMillis 0⟩ "x"
    results = [⟨"left", .number (.ofNat 5), "5"⟩, ⟨"right", .number (.ofNat 10), "10"⟩, ⟨"inverse", .null, ""⟩,
      ⟨"next", .number (.ofNat 1), "1"⟩] ∧ data["inverse"]? = some .null ∧ data["x"]? = some (.number (.ofNat 0)) := by
  decide +kernel

end FormRules.Registry
