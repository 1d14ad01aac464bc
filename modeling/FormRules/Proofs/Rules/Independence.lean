import FormRules.Proofs.Rules.Cascade

/-!
# Changes in either order

A change writes a value and recomputes what it affects. It touches nothing else (`getElem?_change`), and it makes
no field stale (`UpToDate.change`). Without circular fields the data are determined by what was not recomputed
and by the formulas of the fields that were (`eq_of_upToDate`). So two changes of fields that are not calculated
lead to the same data in either order, also if some fields were stale before (`changeAll_comm`).
-/

namespace FormRules.Registry

open Formula (Context)

/-- Writes a value and recomputes what it affects; the registry afterwards, and the form. -/
def change (r : Registry) (ctx : Context) (key : String) (value : Value) : Registry × Context :=
  let (_, data, r) := r.applyChange { ctx with data := ctx.data.insert key value } key
  (r, { ctx with data })

/-- The form after some changes, one after the other. -/
def changeAll (r : Registry) (ctx : Context) : List (String × Value) → Context
  | [] => ctx
  | (key, value) :: rest =>
    let (r, ctx) := r.change ctx key value
    r.changeAll ctx rest

variable {r : Registry} {ctx : Context} {key other : String} {value : Value}

theorem change_snd : (r.change ctx key value).2 = { ctx with
    data := r.rewritten { ctx with data := ctx.data.insert key value } (r.affectedFields key) } :=
  congrArg (fun data => { ctx with data }) (recomputeAll_data (r.affectedFields key))

/-- Recomputing changes the engine alone. -/
theorem recomputeAll_registry (ids : List String) : ∃ engine, (r.recomputeAll ctx ids).2.2 = { r with engine } := by
  induction ids generalizing r ctx with
  | nil => exact ⟨r.engine, rfl⟩
  | cons id rest ih =>
    obtain ⟨engine, hr⟩ : ∃ engine, (r.rawValue ctx id).2 = { r with engine } := rawValue_snd id
    have hcons : (r.recomputeAll ctx (id :: rest)).2.2 = ((r.rawValue ctx id).2.recomputeAll
        { ctx with data := ctx.data.insert id ((r.rawValue ctx id).1.getD .null) } rest).2.2 := rfl
    rw [hcons, hr]
    exact ih

theorem change_fst (r : Registry) (ctx : Context) (key : String) (value : Value) :
    ∃ engine, (r.change ctx key value).1 = { r with engine } :=
  recomputeAll_registry (r.affectedFields key)

/-- What an engine has compiled before has no influence on changes. -/
theorem changeAll_evaluated (engine : Formula.Engine) (changes : List (String × Value)) :
    Registry.changeAll { r with engine } ctx changes = r.changeAll ctx changes := by
  induction changes generalizing engine ctx with
  | nil => rfl
  | cons entry rest ih =>
    obtain ⟨engine₁, h₁⟩ := change_fst { r with engine } ctx entry.1 entry.2
    obtain ⟨engine₂, h₂⟩ := change_fst r ctx entry.1 entry.2
    have hform : (Registry.change { r with engine } ctx entry.1 entry.2).2 = (r.change ctx entry.1 entry.2).2 := by
      rw [change_snd, change_snd]
      rfl
    show (Registry.change { r with engine } ctx entry.1 entry.2).1.changeAll
        (Registry.change { r with engine } ctx entry.1 entry.2).2 rest =
      (r.change ctx entry.1 entry.2).1.changeAll (r.change ctx entry.1 entry.2).2 rest
    rw [h₁, h₂, hform, ih engine₁, ih engine₂]

theorem changeAll_cons (rest : List (String × Value)) :
    r.changeAll ctx ((key, value) :: rest) = r.changeAll (r.change ctx key value).2 rest := by
  obtain ⟨engine, hr⟩ := change_fst r ctx key value
  show (r.change ctx key value).1.changeAll (r.change ctx key value).2 rest = _
  rw [hr, changeAll_evaluated]

theorem getElem?_rewritten {ids : List String} (h : other ∉ ids) :
    (r.rewritten ctx ids)[other]? = ctx.data[other]? := by
  induction ids generalizing ctx with
  | nil => rfl
  | cons id rest ih =>
    rw [List.mem_cons, not_or] at h
    have hrest := @ih { ctx with data := ctx.data.insert id (r.freshValue ctx id) } h.2
    exact hrest.trans (getElem?_insert_of_ne (Ne.symm h.1))

/-- A change touches the key and what it affects. -/
theorem getElem?_change (h : other ∉ r.affectedFields key) :
    (r.change ctx key value).2.data[other]? = (ctx.data.insert key value)[other]? := by
  rw [change_snd]
  exact getElem?_rewritten h

/-- Direct names stay so when fields are recomputed. -/
theorem isDirect_rewritten {ids : List String} {name : String} (h : ctx.data.IsDirect ctx.fields name) :
    FormData.IsDirect (r.rewritten ctx ids) ctx.fields name := by
  induction ids generalizing ctx with
  | nil => exact h
  | cons id rest ih =>
    exact @ih { ctx with data := ctx.data.insert id (r.freshValue ctx id) } (h.insert id (r.freshValue ctx id))

theorem isDirect_change {name : String} (h : ctx.data.IsDirect ctx.fields name) :
    FormData.IsDirect (r.change ctx key value).2.data (r.change ctx key value).2.fields name := by
  rw [change_snd]
  exact isDirect_rewritten (h.insert key value)

theorem ReadsDirectly.change (h : r.ReadsDirectly ctx) : r.ReadsDirectly (r.change ctx key value).2 :=
  fun id field hfield name hname => isDirect_change (h id field hfield name hname)

theorem UpToDate.mono {except except' : List String} (h : r.UpToDate ctx except) (hsub : except ⊆ except') :
    r.UpToDate ctx except' :=
  fun id field hfield hid => h id field hfield fun hmem => hid (hsub hmem)

/-- No field need be up to date. -/
theorem upToDate_keys : r.UpToDate ctx r.calculations.keys := by
  intro id field hfield hid
  refine absurd (Std.ExtTreeMap.mem_keys.mpr ?_) hid
  exact mem_iff_getElem?.mpr ⟨field, hfield⟩

/-- After a change only fields are stale that were so before, and none that the change affects. -/
theorem UpToDate.change (hr : r.InStep) (hcircular : r.circularFields = []) (hdirect : r.ReadsDirectly ctx)
    {except : List String} (h : r.UpToDate ctx except) (hkey : r.calculation? key = none) :
    r.UpToDate (r.change ctx key value).2 (except.filter (· ∉ r.affectedFields key)) := by
  rw [change_snd]
  refine UpToDate.recomputeBeside hr (dependentsFollow_affectedFields hr hcircular hkey)
    (hdirect.insert key value) (h.write hr hdirect (by simp [hkey]) ?_ ?_)
  · exact fun d hedge => List.mem_append_left _ (mem_affectedFields_of_edge hr hkey .refl hedge)
  · intro id hid
    by_cases haffected : id ∈ r.affectedFields key
    · exact .inr (List.mem_append_left _ haffected)
    · exact .inr (List.mem_append_right _ (List.mem_filter.mpr ⟨hid, by simpa using haffected⟩))

/-- The data are determined by the formulas of the fields that are up to date, and by what is stored under all other
keys. -/
theorem eq_of_upToDate (hr : r.InStep) (hcircular : r.circularFields = []) {data data' : FormData}
    {except : List String} (hdirect : r.ReadsDirectly { ctx with data })
    (hdirect' : r.ReadsDirectly { ctx with data := data' }) (h : r.UpToDate { ctx with data } except)
    (h' : r.UpToDate { ctx with data := data' } except)
    (hother : ∀ key, key ∉ r.calculations ∨ key ∈ except → data[key]? = data'[key]?) : data = data' := by
  -- a field is treated after those that its formula refers to
  have hcalculated : ∀ id : { id // id ∈ r.calculations }, data[id.1]? = data'[id.1]? := by
    intro id
    induction id using (hr.wellFounded hcircular).induction with
    | _ id ih =>
      obtain ⟨id, hid⟩ := id
      by_cases hexcept : id ∈ except
      · exact hother id (.inr hexcept)
      · obtain ⟨field, hfield⟩ : ∃ field, r.calculation? id = some field :=
          mem_iff_getElem?.mp hid
        have hvalue : ∀ name ∈ Formula.dependencies field.formula,
            Context.value { ctx with data } name = Context.value { ctx with data := data' } name := by
          intro name hname
          have hname' : data[name]? = data'[name]? := by
            by_cases hmem : name ∈ r.calculations
            · exact ih ⟨name, hmem⟩ (hr.edge_field_iff.mpr ⟨field, hfield, name, hname, rfl⟩)
            · exact hother name (.inl hmem)
          rw [Context.value, Context.value, FormData.lookup_of_isDirect (hdirect id field hfield name hname),
            FormData.lookup_of_isDirect (hdirect' id field hfield name hname), hname']
        rw [h id field hfield hexcept, h' id field hfield hexcept, formulaValue, formulaValue,
          Formula.resultOf_congr hvalue (.inl rfl)]
  refine Std.ExtTreeMap.ext_getElem? fun key => ?_
  by_cases hkey : key ∈ r.calculations
  · exact hcalculated ⟨key, hkey⟩
  · exact hother key (.inl hkey)

/-- A key that neither of two changes affects is touched by the writes alone. -/
theorem getElem?_change_change {key' : String} {value' : Value} (h : other ∉ r.affectedFields key)
    (h' : other ∉ r.affectedFields key') : (r.change (r.change ctx key value).2 key' value').2.data[other]? =
      ((ctx.data.insert key value).insert key' value')[other]? := by
  rw [getElem?_change h', Std.ExtTreeMap.getElem?_insert, Std.ExtTreeMap.getElem?_insert, getElem?_change h]

/-- In a registry without circular fields two changes of different fields that are not calculated lead to the same
data in either order, whether or not the calculated fields were up to date before. -/
theorem changeAll_comm (hr : r.Reachable) (hcircular : r.circularFields = []) (hdirect : r.ReadsDirectly ctx)
    {x y : String} (hne : x ≠ y) (hx : r.calculation? x = none) (hy : r.calculation? y = none) (a b : Value) :
    (r.changeAll ctx [(x, a), (y, b)]).data = (r.changeAll ctx [(y, b), (x, a)]).data := by
  have hstep := hr.inStep
  -- in either order, only fields that neither change affects may still be stale
  let stale := r.calculations.keys.filter fun id => id ∉ r.affectedFields x ∧ id ∉ r.affectedFields y
  have hxy : r.UpToDate (r.change (r.change ctx x a).2 y b).2 stale := by
    refine ((upToDate_keys.change hstep hcircular hdirect hx).change hstep hcircular hdirect.change hy).mono ?_
    exact fun id hid => by simpa [stale, and_assoc, and_comm] using hid
  have hyx : r.UpToDate (r.change (r.change ctx y b).2 x a).2 stale := by
    refine ((upToDate_keys.change hstep hcircular hdirect hy).change hstep hcircular hdirect.change hx).mono ?_
    exact fun id hid => by simpa [stale, and_assoc] using hid
  rw [changeAll_cons, changeAll_cons, changeAll_cons, changeAll_cons]
  show (r.change (r.change ctx x a).2 y b).2.data = (r.change (r.change ctx y b).2 x a).2.data
  refine eq_of_upToDate hstep hcircular hdirect.change.change hdirect.change.change hxy hyx ?_
  intro key hkey
  have hunaffected : key ∉ r.affectedFields x ∧ key ∉ r.affectedFields y := by
    rcases hkey with hkey | hstale
    · have hcalculated : ∀ {z}, key ∈ r.affectedFields z → key ∈ r.calculations := fun hmem =>
        Std.ExtTreeMap.mem_iff_isSome_getElem?.mpr (mem_affectedFields.mp hmem).1
      exact ⟨fun hmem => hkey (hcalculated hmem), fun hmem => hkey (hcalculated hmem)⟩
    · simpa [stale] using (List.mem_filter.mp hstale).2
  rw [getElem?_change_change hunaffected.1 hunaffected.2, getElem?_change_change hunaffected.2 hunaffected.1]
  by_cases hkx : x = key
  · subst hkx
    rw [getElem?_insert_of_ne hne.symm, Std.ExtTreeMap.getElem?_insert_self, Std.ExtTreeMap.getElem?_insert_self]
  · rw [getElem?_insert_of_ne (m := ctx.data.insert y b) hkx, Std.ExtTreeMap.getElem?_insert,
      getElem?_insert_of_ne hkx, Std.ExtTreeMap.getElem?_insert]

/-- A field of its own depends on each of `x` and `y`, and a third one on both of these. -/
def crossing : Registry :=
  ((({} : Registry).registerCalculation "left" "[x]+1" .realtime {})
    |>.registerCalculation "right" "10/[y]" .realtime {})
    |>.registerCalculation "both" "[left]*[right]" .realtime {}

/-- No calculated field is up to date, and there is no value under `y`. -/
def crossingContext : Context where
  data := .ofList ([("x", 1), ("left", 7), ("right", 7), ("both", 7)].map fun (k, n) => (k, Value.number (.ofNat n)))
  fields := .ofList [("x", FieldMeta.mk "x" "Width" "" none false)]
  now := .ofMillis 0

/-- In either order the first product is made of a stale value, and the last one of the new ones. -/
theorem changeAll_comm_crossing :
    crossing.Reachable ∧ crossing.circularFields = [] ∧ crossing.ReadsDirectly crossingContext ∧
      ¬ crossing.Consistent crossingContext ∧
      crossing.calculation? "x" = none ∧ crossing.calculation? "y" = none ∧
      (crossing.changeAll crossingContext [("x", .number (.ofNat 2)), ("y", .number (.ofNat 5))]).data =
        (crossing.changeAll crossingContext [("y", .number (.ofNat 5)), ("x", .number (.ofNat 2))]).data ∧
      (crossing.changeAll crossingContext [("y", .number (.ofNat 5)), ("x", .number (.ofNat 2))]).data["both"]? =
        some (.number (.ofNat 6)) := by
  have hr : crossing.Reachable :=
    .registerCalculation (.registerCalculation (.registerCalculation .new _ _ _ _) _ _ _ _) _ _ _ _
  have hcircular : crossing.circularFields = [] := by decide +kernel
  have hdirect : crossing.ReadsDirectly crossingContext := by
    have hkeys : ∀ entry ∈ crossing.calculations.toList, ∀ name ∈ Formula.dependencies entry.2.formula,
        name ∈ crossingContext.data ∨
          ∀ field ∈ crossingContext.fields.toList, field.2.isNamed name = false := by decide +kernel
    refine forall_calculation_iff.mpr fun entry hentry name hname => (hkeys entry hentry name hname).imp_right ?_
    exact fun hno id field hfield => hno (id, field) (FieldMap.mem_toList.mpr hfield)
  have hstale : ¬ crossing.Consistent crossingContext := by decide +kernel
  have hx : crossing.calculation? "x" = none := by decide +kernel
  have hy : crossing.calculation? "y" = none := by decide +kernel
  have hcomm := changeAll_comm hr hcircular hdirect (by decide) hx hy (.number (.ofNat 2)) (.number (.ofNat 5))
  exact ⟨hr, hcircular, hdirect, hstale, hx, hy, hcomm, by decide +kernel⟩

end FormRules.Registry
