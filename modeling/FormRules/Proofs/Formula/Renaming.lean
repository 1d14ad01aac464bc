import Mathlib.Data.List.Forall2
import FormRules.Proofs.Field
import FormRules.Proofs.Formula.Evaluation

/-!
# Other names for the same field

Where no name belongs to two fields, each identifier of a field stands for this field, and so for the value that the
field has, under whichever of its identifiers that is stored (`lookup_of_mem_identifiers`). An expression depends on
its names through their values alone (`Renamed.evaluate_eq`), so names may be exchanged for others of the same field
(`evaluate_renamed`).
-/

namespace FormRules

/-- No name is an identifier of two fields. -/
def FieldMap.Unambiguous (fields : FieldMap) : Prop :=
  ∀ (id id' : String) (field field' : FieldMeta) (name : String), fields[id]? = some field →
    fields[id']? = some field' → name ∈ field.identifiers → name ∈ field'.identifiers → id = id'

/-- The names are the same or name the same field. -/
def FieldMap.SameField (fields : FieldMap) (name name' : String) : Prop :=
  name' = name ∨ ∃ (id : String) (field : FieldMeta), fields[id]? = some field ∧ name ∈ field.identifiers ∧
    name' ∈ field.identifiers

/-- The data has values under one identifier of each field at most. -/
def FormData.StoredOnce (data : FormData) (fields : FieldMap) : Prop :=
  ∀ (id : String) (field : FieldMeta), fields[id]? = some field → ∀ key ∈ field.identifiers,
    ∀ key' ∈ field.identifiers, key ∈ data → key' ∈ data → key = key'

section

variable {data : FormData} {fields : FieldMap} {id key name : String} {field : FieldMeta} {value : Value}

/-- Each identifier of a field stands for the field. -/
theorem FieldMap.Unambiguous.named?_eq (h : fields.Unambiguous) (hfield : fields[id]? = some field)
    (hname : name ∈ field.identifiers) : FieldMap.named? fields name = some field := by
  have hsame : ∀ (id' : String) (field' : FieldMeta), fields[id']? = some field' → field'.isNamed name = true →
      field' = field := by
    intro id' field' hfield' hnamed
    have hmem : name ∈ field'.identifiers := List.contains_iff_mem.mp hnamed
    obtain rfl : id' = id := h id' id field' field name hfield' hfield hmem hname
    exact Option.some.inj (hfield'.symm.trans hfield)
  unfold FieldMap.named?
  cases hown : fields[name]?.filter (·.isNamed name) with
  | some own =>
    obtain ⟨hget, hnamed⟩ := Option.filter_eq_some_iff.mp hown
    rw [hsame name own hget hnamed]
    rfl
  | none =>
    have hnamed : field.isNamed name = true := List.contains_iff_mem.mpr hname
    have hmem : field ∈ fields.values := FieldMap.mem_values.mpr ⟨id, hfield⟩
    cases hfind : fields.values.find? (·.isNamed name) with
    | none => exact absurd hnamed (List.find?_eq_none.mp hfind field hmem)
    | some found =>
      obtain ⟨id', hfound⟩ := FieldMap.mem_values.mp (List.mem_of_find?_eq_some hfind)
      have hnamed' : found.isNamed name = true := by simpa using List.find?_some hfind
      rw [hsame id' found hfound hnamed']
      rfl

/-- Only a name of two fields stands for another field when the fields stand in another order. -/
theorem FieldMap.Unambiguous.named?_of_perm {fields' : FieldMap} (h : fields.Unambiguous)
    (hperm : fields.toList.Perm fields'.toList) : fields.named? name = fields'.named? name := by
  have hget (id : String) : fields[id]? = fields'[id]? :=
    Option.ext fun field => by rw [← mem_toList, ← mem_toList, hperm.mem_iff]
  have h' : fields'.Unambiguous := by
    intro id id' field field' name hfield hfield'
    rw [← hget] at hfield hfield'
    exact h id id' field field' name hfield hfield'
  by_cases hnamed : ∃ (id : String) (field : FieldMeta), fields[id]? = some field ∧ name ∈ field.identifiers
  · obtain ⟨id, field, hfield, hname⟩ := hnamed
    rw [h.named?_eq hfield hname, h'.named?_eq (hget id ▸ hfield) hname]
  · have hno : ∀ (id : String) (field : FieldMeta), fields[id]? = some field → field.isNamed name = false :=
      fun id field hfield => by
        rw [← Bool.not_eq_true, FieldMeta.isNamed, List.contains_iff_mem]
        exact fun hname => hnamed ⟨id, field, hfield, hname⟩
    rw [named?_eq_none hno, named?_eq_none fun id field hfield => hno id field ((hget id).trans hfield)]

/-- The value of a field is what is stored under whichever of its identifiers the data uses. -/
theorem FormData.StoredOnce.ofField?_eq (h : data.StoredOnce fields) (hfield : fields[id]? = some field)
    (hkey : key ∈ field.identifiers) (hvalue : data[key]? = some value) : data.ofField? field = some value := by
  unfold FormData.ofField?
  cases hfind : field.identifiers.findSome? (data[·]?) with
  | none =>
    have hno := List.findSome?_eq_none_iff.mp hfind key hkey
    rw [hvalue] at hno
    cases hno
  | some found =>
    obtain ⟨key', hkey', hfound⟩ := List.exists_of_findSome?_eq_some hfind
    have hstored : key ∈ data := mem_iff_getElem?.mpr ⟨value, hvalue⟩
    have hstored' : key' ∈ data := mem_iff_getElem?.mpr ⟨found, hfound⟩
    obtain rfl : key = key' := h id field hfield key hkey key' hkey' hstored hstored'
    exact hfound.symm.trans hvalue

/-- Each identifier of a field stands for the value of the field. -/
theorem FormData.lookup_of_mem_identifiers (hfields : fields.Unambiguous) (hdata : data.StoredOnce fields)
    (hfield : fields[id]? = some field) (hname : name ∈ field.identifiers) :
    data.lookup fields name = (data.ofField? field).getD .null := by
  unfold FormData.lookup
  cases hvalue : data[name]? with
  | some value =>
    rw [hdata.ofField?_eq hfield hname hvalue]
    rfl
  | none =>
    rw [hfields.named?_eq hfield hname]
    rfl

theorem FormData.ofField?_eq_none (h : ∀ key ∈ field.identifiers, key ∉ data) : data.ofField? field = none := by
  refine List.findSome?_eq_none_iff.mpr fun key hkey => ?_
  exact Std.ExtTreeMap.getElem?_eq_none (h key hkey)

/-- Names of the same field stand for the same value. -/
theorem FieldMap.SameField.lookup_eq {name' : String} (h : fields.SameField name name')
    (hfields : fields.Unambiguous) (hdata : data.StoredOnce fields) :
    data.lookup fields name' = data.lookup fields name := by
  rcases h with rfl | ⟨id, field, hfield, hname, hname'⟩
  · rfl
  · rw [FormData.lookup_of_mem_identifiers hfields hdata hfield hname,
      FormData.lookup_of_mem_identifiers hfields hdata hfield hname']

end

namespace Formula

/-- The second expression is the first one with names of fields exchanged for others, each one for a name that `R`
relates to it. -/
inductive Renamed (R : String → String → Prop) : Expr → Expr → Prop
  | literal (value : Value) : Renamed R (.literal value) (.literal value)
  | field {name name' : String} (h : R name name') : Renamed R (.field name) (.field name')
  | arithmetic (op : ArithmeticOp) {left left' right right' : Expr} (hl : Renamed R left left')
      (hr : Renamed R right right') : Renamed R (.arithmetic op left right) (.arithmetic op left' right')
  | comparison (op : ComparisonOp) {left left' right right' : Expr} (hl : Renamed R left left')
      (hr : Renamed R right right') : Renamed R (.comparison op left right) (.comparison op left' right')
  | call (function : String) {args args' : List Expr} (h : List.Forall₂ (Renamed R) args args') :
      Renamed R (.call function args) (.call function args')

section

variable {R : String → String → Prop} {ctx : Context}

mutual

/-- Exchanging names for others with the same values does not change the result. -/
theorem Renamed.evaluate_eq (hR : ∀ name name', R name name' → ctx.value name' = ctx.value name) :
    (e : Expr) → ∀ e', Renamed R e e' → evaluate ctx e' = evaluate ctx e
  | .literal value, _, .literal _ => rfl
  | .field name, _, .field h => congrArg Except.ok (hR name _ h)
  | .arithmetic op left right, _, .arithmetic _ hl hr => by
    simp only [evaluate, Renamed.evaluate_eq hR left _ hl, Renamed.evaluate_eq hR right _ hr]
  | .comparison op left right, _, .comparison _ hl hr => by
    simp only [evaluate, Renamed.evaluate_eq hR left _ hl, Renamed.evaluate_eq hR right _ hr]
  | .call function args, _, .call _ h => evaluate_call_congr (Renamed.map_evaluate_eq hR args _ h) function

theorem Renamed.map_evaluate_eq (hR : ∀ name name', R name name' → ctx.value name' = ctx.value name) :
    (args : List Expr) → ∀ args', List.Forall₂ (Renamed R) args args' →
      args'.map (evaluate ctx) = args.map (evaluate ctx)
  | [], _, .nil => rfl
  | arg :: args, _, .cons h hs => by
    rw [List.map_cons, List.map_cons, Renamed.evaluate_eq hR arg _ h, Renamed.map_evaluate_eq hR args _ hs]

end

end

/-- In a form where no name is an identifier of two fields, and values are stored under one identifier of each field at
most, exchanging names for others of the same field, one here and another there, does not change the result of an
expression. Each identifier of a field reads the value that is stored under whichever of them, or nothing if there is
none. -/
theorem evaluate_renamed {ctx : Context} (hfields : ctx.fields.Unambiguous)
    (hdata : FormData.StoredOnce ctx.data ctx.fields) :
    (∀ e e', Renamed ctx.fields.SameField e e' → evaluate ctx e' = evaluate ctx e) ∧
    ∀ (id : String) (field : FieldMeta), ctx.fields[id]? = some field → ∀ name ∈ field.identifiers,
      (∀ key ∈ field.identifiers, ∀ value, ctx.data[key]? = some value →
        evaluate ctx (.field name) = .ok value) ∧
      ((∀ key ∈ field.identifiers, key ∉ ctx.data) → evaluate ctx (.field name) = .ok .null) := by
  refine ⟨?_, fun id field hfield name hname => ?_⟩
  · exact Renamed.evaluate_eq fun name name' hsame => hsame.lookup_eq hfields hdata
  · have hread : evaluate ctx (.field name) = .ok ((FormData.ofField? ctx.data field).getD .null) :=
      congrArg Except.ok (FormData.lookup_of_mem_identifiers hfields hdata hfield hname)
    refine ⟨fun key hkey value hvalue => ?_, fun hno => ?_⟩
    · rw [hread, hdata.ofField?_eq hfield hkey hvalue]
      rfl
    · rw [hread, FormData.ofField?_eq_none hno]
      rfl

/-- A field with all three identifiers. -/
def priceField : FieldMeta := ⟨"f1", "Price", "", some "price", false⟩

/-- A field without a name beside its id and title. -/
def amountField : FieldMeta := ⟨"f2", "Amount", "", none, false⟩

/-- A form that has the price under its name, and no amount. -/
def pricedOnly : Context where
  data := .ofList [("price", Value.number (.ofNat 5)), ("note", Value.text "x")]
  fields := .ofList [("f1", priceField), ("f2", amountField)]
  now := .ofMillis 0

/-- Each name of the price is exchanged for another one, the two occurrences of one name differently. -/
theorem evaluate_renamed_price :
    pricedOnly.fields.Unambiguous ∧ FormData.StoredOnce pricedOnly.data pricedOnly.fields ∧
      evaluate pricedOnly (.call "MAX" [.arithmetic .multiply (.field "f1") (.field "price"), .field "f2"]) =
        evaluate pricedOnly (.call "MAX" [.arithmetic .multiply (.field "Price") (.field "Price"), .field "Amount"]) ∧
      evaluate pricedOnly (.field "f1") = .ok (.number (.ofNat 5)) ∧
      evaluate pricedOnly (.field "Amount") = .ok .null := by
  have hprice : pricedOnly.fields["f1"]? = some priceField := by decide +kernel
  have hamount : pricedOnly.fields["f2"]? = some amountField := by decide +kernel
  have hfields : pricedOnly.fields.Unambiguous := by
    have hentries : ∀ entry ∈ pricedOnly.fields.toList, ∀ entry' ∈ pricedOnly.fields.toList,
        ∀ name ∈ entry.2.identifiers, name ∈ entry'.2.identifiers → entry.1 = entry'.1 := by decide +kernel
    intro id id' field field' name hfield hfield' hname hname'
    exact hentries (id, field) (FieldMap.mem_toList.mpr hfield) (id', field') (FieldMap.mem_toList.mpr hfield') name
      hname hname'
  have hdata : FormData.StoredOnce pricedOnly.data pricedOnly.fields := by
    have hentries : ∀ entry ∈ pricedOnly.fields.toList, ∀ key ∈ entry.2.identifiers, ∀ key' ∈ entry.2.identifiers,
        key ∈ pricedOnly.data → key' ∈ pricedOnly.data → key = key' := by decide +kernel
    exact fun id field hfield => hentries (id, field) (FieldMap.mem_toList.mpr hfield)
  obtain ⟨hrenamed, hread⟩ := evaluate_renamed hfields hdata
  have htitle {name : String} (hname : name ∈ priceField.identifiers) :
      Renamed pricedOnly.fields.SameField (.field "Price") (.field name) :=
    .field (.inr ⟨"f1", priceField, hprice, by decide, hname⟩)
  have hother : Renamed pricedOnly.fields.SameField (.field "Amount") (.field "f2") :=
    .field (.inr ⟨"f2", amountField, hamount, by decide, by decide⟩)
  refine ⟨hfields, hdata, hrenamed _ _ (.call "MAX" ?_), ?_, ?_⟩
  · exact .cons (.arithmetic .multiply (htitle (by decide)) (htitle (by decide))) (.cons hother .nil)
  · exact (hread "f1" priceField hprice "f1" (by decide)).1 "price" (by decide) _ (by decide +kernel)
  · exact (hread "f2" amountField hamount "Amount" (by decide)).2 (by decide +kernel)

end Formula

end FormRules
