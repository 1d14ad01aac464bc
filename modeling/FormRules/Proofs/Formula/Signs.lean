import FormRules.Proofs.Formula.Grammar

/-!
# The signs of numbers

Without blanks in between, a minus that subtracts from nothing and a number behind it are a number with a sign.
`mergeSigns` makes one token of the two, wherever the number has no sign yet. Tokens that are written and read again
are the merged ones, with the names of functions taken to upper case once more (`Rewrites`); tokens are rewritten
part by part.
-/

namespace FormRules.Formula

/-- The first token is a minus that no operand stands in front of, the second one a number without a sign. -/
def IsSign (afterOperand : Bool) (minus number : Token) : Prop :=
  afterOperand = false ∧ (minus.kind = .operator ∧ minus.text = "-") ∧
    number.kind = .number ∧ number.text.toList.head? ≠ some '-'

instance (afterOperand : Bool) (minus number : Token) : Decidable (IsSign afterOperand minus number) :=
  inferInstanceAs (Decidable (_ ∧ _))

/-- The tokens, behind one that does or does not end an operand, with each sign and its number as one token. -/
def mergeSigns : Bool → List Token → List Token
  | _, [] => []
  | _, [t] => [t]
  | afterOperand, t :: next :: rest =>
    if IsSign afterOperand t next then ⟨.number, "-" ++ next.text, t.position⟩ :: mergeSigns true rest
    else t :: mergeSigns t.kind.endsOperand (next :: rest)

section

variable {before middle after : Bool} {t : Token} {tokens left right out l r : List Token}

theorem mergeSigns_cons (h : ∀ next, tokens.head? = some next → ¬ IsSign before t next) :
    mergeSigns before (t :: tokens) = t :: mergeSigns t.kind.endsOperand tokens := by
  cases tokens with
  | nil => rfl
  | cons next rest => exact if_neg (h next rfl)

theorem mergeSigns_sign {minus number : Token} (h : IsSign before minus number) :
    mergeSigns before (minus :: number :: tokens) =
      ⟨.number, "-" ++ number.text, minus.position⟩ :: mergeSigns true tokens := if_pos h

theorem mem_mergeSigns (h : t ∈ mergeSigns before tokens) : t ∈ tokens ∨ t.kind = .number := by
  fun_induction mergeSigns before tokens with
  | case1 => cases h
  | case2 => exact .inl h
  | case3 _ first next rest _ ih =>
    rcases List.mem_cons.mp h with rfl | h
    · exact .inr rfl
    · exact (ih h).imp_left fun hrest => List.mem_cons_of_mem _ (List.mem_cons_of_mem _ hrest)
  | case4 _ first next rest _ ih =>
    rcases List.mem_cons.mp h with rfl | h
    · exact .inl List.mem_cons_self
    · exact (ih h).imp_left (List.mem_cons_of_mem _)

/-- The kind and the text of what is read for a token. -/
def Token.reread (t : Token) : TokenKind × String :=
  (t.kind, if t.kind = .function then Text.upper t.text else t.text)

theorem Token.reread_eq_content (h : t.kind = .function → Text.upper t.text = t.text) : t.reread = t.content := by
  unfold reread content
  split
  · next hk => rw [h hk]
  · rfl

/-- The tokens of the second list are what is read for those of the first, whatever is written behind them. -/
def Rewrites (before after : Bool) (tokens out : List Token) : Prop :=
  ∀ rest, (mergeSigns before (tokens ++ rest)).map Token.reread =
    out.map Token.content ++ (mergeSigns after rest).map Token.reread

namespace Rewrites

theorem nil : Rewrites after after [] [] := fun _ => rfl

theorem append (hl : Rewrites before middle left l) (hr : Rewrites middle after right r) :
    Rewrites before after (left ++ right) (l ++ r) := by
  intro rest
  rw [List.append_assoc, hl, hr, List.map_append, List.append_assoc]

theorem cons {t' : Token} (hno : ∀ rest next, (tokens ++ rest).head? = some next → ¬ IsSign before t next)
    (ht : t'.content = t.reread) (h : Rewrites t.kind.endsOperand after tokens out) :
    Rewrites before after (t :: tokens) (t' :: out) := by
  intro rest
  rw [List.cons_append, mergeSigns_cons (hno rest), List.map_cons, List.map_cons, h, ht, List.cons_append]

/-- A token that is no sign, whatever stands behind it. -/
theorem single {kind : TokenKind} {t' : Token} (hk : t.kind = kind) (hno : before = true ∨ kind ≠ .operator)
    (ht : t'.content = t.reread) : Rewrites before kind.endsOperand [t] [t'] := by
  subst hk
  refine cons (fun _ _ _ hsign => ?_) ht nil
  rcases hno with hafter | hkind
  · rw [hsign.1] at hafter
    cases hafter
  · exact hkind hsign.2.1.1

/-- A token that is read as it is, at some position. -/
theorem same {kind : TokenKind} (hk : t.kind = kind) (hno : before = true ∨ kind ≠ .operator)
    (hfunction : kind ≠ .function) (position : Nat) :
    Rewrites before kind.endsOperand [t] [{ t with position }] :=
  single hk hno (Token.reread_eq_content fun hname => absurd (hk.symm.trans hname) hfunction).symm

/-- The name of a function. -/
theorem name (hk : t.kind = .function) (position : Nat) :
    Rewrites before false [t] [⟨.function, Text.upper t.text, position⟩] := by
  have hread : Token.content ⟨.function, Text.upper t.text, position⟩ = t.reread := by
    rw [Token.reread, if_pos hk, hk]
    rfl
  exact single hk (.inr (by decide)) hread

/-- Parentheses around tokens. -/
theorem parens {opening closing : Token} (ho : opening.kind = .openParen) (hc : closing.kind = .closeParen)
    (h : Rewrites false middle tokens out) (position position' : Nat) :
    Rewrites before true (opening :: (tokens ++ [closing]))
      ({ opening with position } :: (out ++ [{ closing with position := position' }])) :=
  (same ho (.inr (by decide)) (by decide) position).append
    (h.append (same hc (.inr (by decide)) (by decide) position'))

/-- A minus in front of an operand that starts with no number for it. -/
theorem minus {op next : Token} {operand : List Token} (hk : op.kind = .operator) (hno : ¬ IsSign before op next)
    (h : Rewrites false after (next :: operand) out) (position : Nat) :
    Rewrites before after (op :: next :: operand) ({ op with position } :: out) := by
  refine cons (fun _ _ hhead => ?_) (Token.reread_eq_content (by simp [hk])).symm ?_
  · cases hhead
    exact hno
  · rw [hk]
    exact h

/-- A sign and its number. -/
theorem sign {op number : Token} (h : IsSign before op number) (position : Nat) :
    Rewrites before true [op, number] [⟨.number, "-" ++ number.text, position⟩] := by
  intro rest
  rw [List.cons_append, List.singleton_append, mergeSigns_sign h]
  rfl

end Rewrites

end

end FormRules.Formula
