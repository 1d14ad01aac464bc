import Mathlib.Data.List.Basic
import FormRules.Formula.Engine
import FormRules.Proofs.Formula.Lexing
import FormRules.Proofs.Formula.Reading

/-!
# The names that formulas refer to

The names of the fields that a formula refers to are referable (`referable_of_mem_dependencies`), and each such
name in brackets is a formula whose result is the value of the name (`resultOf_reference`). They are read off the
tokens; of a formula that parses they are the fields of its tree, each once, in the order of their first
appearance (`fieldReferences_of_parseFormula`).
-/

namespace FormRules.Formula

/-- The dependencies of a formula are names that can stand in brackets. -/
theorem referable_of_mem_dependencies {formula name : String} (h : name ∈ dependencies formula) :
    Referable name := by
  unfold dependencies fieldReferences tokenize at h
  cases htokens : tokenizeFrom false 0 formula.toList with
  | error e =>
    rw [htokens] at h
    cases h
  | ok tokens =>
    rw [htokens] at h
    change name ∈ distinct _ at h
    rw [mem_distinct] at h
    obtain ⟨token, htoken, rfl⟩ := List.mem_map.mp h
    rw [List.mem_filter, decide_eq_true_eq] at htoken
    obtain ⟨body, last, rfl, hbody⟩ := tokenizeFrom_eq_ok htokens
    rcases List.mem_append.mp htoken.1 with hmem | hmem
    · have hlegible := (hbody token hmem).2
      rw [htoken.2] at hlegible
      exact hlegible.referable
    · rw [List.mem_singleton.mp hmem] at htoken
      exact absurd (show TokenKind.eof = .field from htoken.2) (by decide)

/-- The formula that refers to a single name. -/
def reference (name : String) : String := String.ofList ('[' :: name.toList ++ [']'])

theorem tokenizeFrom_reference {name : String} (h : Referable name) (tail : List Char) :
    tokenizeFrom false 0 ('[' :: name.toList ++ ']' :: tail) =
      (tokenizeFrom true (name.toList.length + 2) tail).map (⟨.field, name, 0⟩ :: ·) := by
  have hread : Lexeme.Reads false (· = tail) ('[' :: (name.toList ++ [']'])) .field name := Lexeme.reads_field h _ _
  simpa [TokenKind.endsOperand] using hread.tokenizeFrom_append rfl 0

theorem tokenize_reference {name : String} (h : Referable name) :
    tokenize (reference name) = .ok [⟨.field, name, 0⟩, .eof (name.toList.length + 2)] := by
  rw [tokenize, reference, String.toList_ofList, tokenizeFrom_reference h, tokenizeFrom]
  rfl

/-- A name in brackets evaluates to the value of the name. -/
theorem resultOf_reference {name : String} (h : Referable name) (ctx : Context) :
    resultOf ctx (reference name) = .ok (ctx.value name) := by
  have hparse : parseFormula (reference name) = .ok (.field name) := by
    have hbody : Derives .comparison (maxLevels - 1)
        (formulaBody [⟨.field, name, 0⟩, .eof (name.toList.length + 2)]) (.field name) :=
      Derives.toComparison (.field rfl)
    rw [parseFormula, tokenize_reference h]
    exact parseTokens_eq_ok_iff.mpr hbody
  rw [resultOf, hparse]
  rfl

theorem dependencies_reference {name : String} (h : Referable name) : dependencies (reference name) = [name] := by
  rw [dependencies, fieldReferences, tokenize_reference h]
  rfl

/-! ### The fields of the tree -/

/-- The names of a list without repetitions, in the order of their first appearance. -/
structure FirstOccurrences (all names : List String) : Prop where
  nodup : names.Nodup
  mem_iff : ∀ name, name ∈ names ↔ name ∈ all
  ordered : names.Pairwise (all.idxOf · < all.idxOf ·)

theorem FirstOccurrences.unique {all names other : List String} (h : FirstOccurrences all names)
    (h' : FirstOccurrences all other) : other = names := by
  have hperm : other.Perm names :=
    (List.perm_ext_iff_of_nodup h'.nodup h.nodup).mpr fun name => (h'.mem_iff name).trans (h.mem_iff name).symm
  refine hperm.eq_of_pairwise (fun a b _ _ hab hba => ?_) h'.ordered h.ordered
  exact absurd hab (Nat.lt_asymm hba)

theorem firstOccurrences_distinct (names : List String) : FirstOccurrences names (distinct names) := by
  induction names with
  | nil => exact ⟨List.nodup_nil, by simp [distinct], List.Pairwise.nil⟩
  | cons first rest ih =>
    have hne : ∀ name ∈ (distinct rest).filter (· ≠ first), first ≠ name := fun name hname =>
      (of_decide_eq_true (List.mem_filter.mp hname).2).symm
    -- all other names stand one place further behind
    have hshift : ∀ name ∈ (distinct rest).filter (· ≠ first),
        (first :: rest).idxOf name = rest.idxOf name + 1 := fun name hname => List.idxOf_cons_ne rest (hne name hname)
    refine ⟨List.nodup_cons.mpr ⟨fun hmem => hne first hmem rfl, ih.nodup.filter _⟩, fun _ => mem_distinct,
      List.pairwise_cons.mpr ⟨fun name hname => ?_, ?_⟩⟩
    · rw [List.idxOf_cons_self, hshift name hname]
      exact Nat.succ_pos _
    · refine (ih.ordered.filter _).imp_of_mem fun {a b} ha hb hab => ?_
      rw [hshift a ha, hshift b hb]
      exact Nat.succ_lt_succ hab

/-- The names that a formula refers to, read off its tokens, are those of the fields of its tree from left to right,
each at its first place only. -/
theorem fieldReferences_of_parseFormula {formula : String} {e : Expr} (h : parseFormula formula = .ok e) :
    ∃ names, fieldReferences formula = .ok names ∧ ∀ other, FirstOccurrences e.fields other ↔ other = names := by
  obtain ⟨body, last, htokens, hd⟩ := parseFormula_eq_ok_iff.mp h
  have hfields : fieldTexts (body ++ [.eof last]) = e.fields := by
    rw [hd.fields_eq, fieldTexts_append]
    exact List.append_nil _
  refine ⟨distinct e.fields, ?_, fun other => ⟨fun hother => ?_, ?_⟩⟩
  · rw [fieldReferences, htokens, ← hfields]
    rfl
  · exact (firstOccurrences_distinct e.fields).unique hother
  · rintro rfl
    exact firstOccurrences_distinct e.fields

/-- Brackets and parentheses in a text and in a name, calls in calls, and a name that comes again. -/
theorem fieldReferences_of_parseFormula_nested :
    let formula := "IF(-[b]>1,\"[x](\",MAX([c (y)],(2-[b]))*[a])"
    ∃ e names, parseFormula formula = .ok e ∧ fieldReferences formula = .ok names ∧
      (∀ other, FirstOccurrences e.fields other ↔ other = names) ∧ e.fields = ["b", "c (y)", "b", "a"] ∧
      names = ["b", "c (y)", "a"] := by
  intro formula
  have hparses : (parseFormula formula).toOption.map Expr.fields = some ["b", "c (y)", "b", "a"] := by decide +kernel
  have hnames : fieldReferences formula = .ok ["b", "c (y)", "a"] := by decide +kernel
  cases hparse : parseFormula formula with
  | error err =>
    rw [hparse] at hparses
    cases hparses
  | ok e =>
    rw [hparse] at hparses
    obtain ⟨names, hnames', hiff⟩ := fieldReferences_of_parseFormula hparse
    have heq : names = ["b", "c (y)", "a"] := Except.ok.inj (hnames'.symm.trans hnames)
    exact ⟨e, names, rfl, hnames', hiff, Option.some.inj hparses, heq⟩

end FormRules.Formula
