import FormRules.Proofs.Formula.Reading
import FormRules.Proofs.Formula.References
import FormRules.Proofs.Number.RoundTrip

/-!
# Nothing and the empty text

A field that holds the empty text reads like one that holds nothing: no formula tells the two apart
(`unnoticed_bare`). All other values have a text (`eq_null_or_eq_text`), and a formula that compares a name with
the empty text tells whether the name stands for one of them (`resultOf_emptiness`).
-/

namespace FormRules

/-- The text of a number is not empty. -/
theorem Binary64.display_ne_empty (x : Binary64) : x.display ≠ "" := by
  have hplain : ∀ x : Binary64, x.plain ≠ "" := by
    intro x hempty
    have hread := read?_plain x
    rw [hempty] at hread
    cases hread
  have hwhole : ∀ n : Int, toString n ≠ "" := by
    intro n
    rw [Int.toString_eq_repr, Int.repr_eq_if]
    split
    · exact Nat.repr_ne_empty
    · simp
  unfold display
  split
  · dsimp only
    split
    · exact hwhole _
    · exact hplain _
  · exact hplain _

namespace Value

/-- Only nothing and the empty text have an empty text. -/
theorem eq_null_or_eq_text {v : Value} (h : v.toText = "") : v = null ∨ v = text "" := by
  cases v with
  | null => exact .inl rfl
  | boolean b => cases b <;> simp [toText, boolText] at h
  | number x => exact absurd h x.display_ne_empty
  | text s => exact .inr (congrArg text h)

/-- The value with nothing in place of the empty text. -/
def bare (v : Value) : Value := if v.toText = "" then null else v

theorem bare_of_empty {v : Value} (h : v.toText = "") : v.bare = null := if_pos h

end Value

namespace Formula

/-- What a value reads as is not changed by taking nothing for the empty text. -/
private theorem read_bare {α : Type} (read : Value → α) (h : read .null = read (.text "")) (v : Value) :
    read v.bare = read v := by
  unfold Value.bare
  split
  · next hempty =>
    rcases Value.eq_null_or_eq_text hempty with rfl | rfl
    · rfl
    · exact h
  · rfl

theorem unnoticed_bare : Unnoticed Value.bare where
  toBool := read_bare _ rfl
  isBlank := read_bare _ rfl
  toNumber := read_bare _ rfl
  toText := read_bare _ rfl
  numeric := read_bare _ rfl
  compare v w := by
    rw [read_bare (compareValues · w.bare), read_bare (compareValues v)]
    · cases v <;> rfl
    · cases w.bare <;> rfl

/-- The formula that compares a name with the empty text. -/
def emptiness (name : String) : String := String.ofList ('[' :: name.toList ++ ']' :: ['=', '"', '"'])

theorem tokenizeFrom_equal_empty (position : Nat) : tokenizeFrom true position ['=', '"', '"'] =
    .ok [⟨.operator, "=", position⟩, ⟨.text, "", position + 1⟩, .eof (position + 3)] := by
  have hop : Lexeme.read true position '=' ['"', '"'] = .ok ⟨.operator, "=", 0⟩ := rfl
  have htext : Lexeme.read TokenKind.operator.endsOperand (position + 1) '"' ['"'] = .ok ⟨.text, "", 1⟩ := rfl
  rw [tokenizeFrom, if_neg (by decide), hop]
  simp only [bind, Except.bind, List.drop_zero, Nat.add_zero]
  rw [tokenizeFrom, if_neg (by decide), htext]
  simp only [bind, Except.bind, List.drop_succ_cons, List.drop_zero]
  rw [tokenizeFrom]
  rfl

theorem tokenize_emptiness {name : String} (h : Referable name) :
    tokenize (emptiness name) = .ok [⟨.field, name, 0⟩, ⟨.operator, "=", name.toList.length + 2⟩,
      ⟨.text, "", name.toList.length + 3⟩, .eof (name.toList.length + 5)] := by
  rw [tokenize, emptiness, String.toList_ofList, tokenizeFrom_reference h, tokenizeFrom_equal_empty]
  rfl

theorem parseFormula_emptiness {name : String} (h : Referable name) :
    parseFormula (emptiness name) = .ok (.comparison .equal (.field name) (.literal (.text ""))) := by
  have hname : Derives .comparison (maxLevels - 1) [⟨.field, name, 0⟩] (.field name) :=
    Derives.toComparison (.field rfl)
  have hempty : Derives .sum (maxLevels - 1) [⟨.text, "", name.toList.length + 3⟩] (.literal (.text "")) :=
    .single (by decide) (.single (by decide) (.text rfl))
  have hbody : Derives .comparison (maxLevels - 1)
      (formulaBody [⟨.field, name, 0⟩, ⟨.operator, "=", name.toList.length + 2⟩,
        ⟨.text, "", name.toList.length + 3⟩, .eof (name.toList.length + 5)])
      (.comparison .equal (.field name) (.literal (.text ""))) :=
    Derives.joined hname (Tier.joint_eq_some_iff.mpr ⟨rfl, by simp [Tier.operators]⟩) hempty
  rw [parseFormula, tokenize_emptiness h]
  exact parseTokens_eq_ok_iff.mpr hbody

/-- Only a value whose text is empty equals the empty text. -/
theorem holds_equal_empty (v : Value) : ComparisonOp.equal.holds v (.text "") = decide (v.toText = "") := by
  have hnumeric : (Value.text "").numeric? = none := by decide +kernel
  have htext : ∀ s : String, decide (some (compare s "") = some .eq) = decide (s = "") := by
    intro s
    rw [decide_eq_decide, Option.some_inj, Std.compare_eq_iff_eq]
  unfold ComparisonOp.holds compareValues
  rw [hnumeric]
  cases v with
  | null => rfl
  | boolean b => cases b <;> decide +kernel
  | number x => exact htext x.display
  | text s =>
    cases (Value.text s).numeric? <;> exact htext s

/-- The formula tells whether the text of the name's value is empty. -/
theorem resultOf_emptiness {name : String} (h : Referable name) (ctx : Context) :
    resultOf ctx (emptiness name) = .ok (.boolean (decide ((ctx.value name).toText = ""))) := by
  rw [← holds_equal_empty, resultOf, parseFormula_emptiness h]
  rfl

end Formula

end FormRules
