import FormRules.Formula.Expansion
import FormRules.Proofs.Formula.Grammar

/-!
# Balanced parentheses

Every phrase is balanced, and has its commas inside parentheses (`Derives.balanced`). So counting parentheses
finds the end of a call (`untilClose?_call`), and its arguments are the phrases between its commas
(`Derives.arguments_found`).
-/

namespace FormRules.Formula

open Expansion

/-- Parentheses are closed in the order in which they are opened; outside of them, commas stand only where
`commas` allows them. -/
inductive Balanced : Bool → List Token → Prop where
  | nil {commas : Bool} : Balanced commas []
  | token {commas : Bool} {t : Token} {rest : List Token} (ho : t.kind ≠ .openParen) (hc : t.kind ≠ .closeParen)
      (hcomma : t.kind = .comma → commas = true) (h : Balanced commas rest) : Balanced commas (t :: rest)
  | parens {commas : Bool} {opening closing : Token} {inner rest : List Token} (ho : opening.kind = .openParen)
      (hc : closing.kind = .closeParen) (hi : Balanced true inner) (h : Balanced commas rest) :
      Balanced commas (opening :: (inner ++ closing :: rest))

namespace Balanced

variable {commas : Bool} {tokens more : List Token}

theorem append (h : Balanced commas tokens) (hmore : Balanced commas more) : Balanced commas (tokens ++ more) := by
  induction h with
  | nil => exact hmore
  | token ho hc hcomma _ ih => exact .token ho hc hcomma (ih hmore)
  | @parens _ opening closing inner rest ho hc hi _ _ ih =>
    rw [List.cons_append, List.append_assoc, List.cons_append]
    exact .parens ho hc hi (ih hmore)

theorem single {t : Token} (ho : t.kind ≠ .openParen) (hc : t.kind ≠ .closeParen)
    (hcomma : t.kind = .comma → commas = true) : Balanced commas [t] := .token ho hc hcomma .nil

theorem allow (h : Balanced false tokens) : Balanced true tokens := by
  generalize hcommas : false = commas at h
  induction h with
  | nil => exact .nil
  | token ho hc _ _ ih => exact .token ho hc (fun _ => rfl) (ih hcommas)
  | parens ho hc hi _ _ ih => exact .parens ho hc hi (ih hcommas)

end Balanced

/-- A list of arguments with their commas is balanced if the arguments are. -/
theorem balanced_written {rest : List Argument} (hcomma : ∀ a ∈ rest, a.comma.kind = .comma)
    (h : ∀ a ∈ rest, Balanced false a.tokens) : Balanced true (rest.flatMap Argument.written) := by
  induction rest with
  | nil => exact .nil
  | cons a rest ih =>
    have ha := hcomma a List.mem_cons_self
    refine .token (by simp [ha]) (by simp [ha]) (fun _ => rfl) ?_
    exact (h a List.mem_cons_self).allow.append
      (ih (fun b hb => hcomma b (List.mem_cons_of_mem a hb)) fun b hb => h b (List.mem_cons_of_mem a hb))

theorem Derives.balanced {tier : Tier} {levels : Nat} {tokens : List Token} {e : Expr}
    (h : Derives tier levels tokens e) : Balanced false tokens := by
  induction h with
  | field hk => exact .single (by simp [hk]) (by simp [hk]) (by simp [hk])
  | text hk => exact .single (by simp [hk]) (by simp [hk]) (by simp [hk])
  | number hk _ => exact .single (by simp [hk]) (by simp [hk]) (by simp [hk])
  | boolean hk => exact .single (by simp [hk]) (by simp [hk]) (by simp [hk])
  | emptyCall hn ho hc =>
    exact .token (by simp [hn]) (by simp [hn]) (by simp [hn]) (@Balanced.parens _ _ _ [] [] ho hc .nil .nil)
  | call hn ho hc _ hcomma _ ihf ihr =>
    exact .token (by simp [hn]) (by simp [hn]) (by simp [hn])
      (.parens ho hc (ihf.allow.append (balanced_written hcomma ihr)) .nil)
  | parens ho hc _ ih => exact .parens ho hc ih.allow .nil
  | minus hk _ _ ih => exact .token (by simp [hk]) (by simp [hk]) (by simp [hk]) ih
  | single _ _ ih => exact ih
  | joined _ hj _ ihl ihr =>
    have hk := (Tier.joint_cases hj).1
    exact ihl.append (.token (by simp [hk]) (by simp [hk]) (by simp [hk]) ihr)

namespace Expansion

variable {token : Token} {rest : List Token}

theorem untilClose?_open (h : token.kind = .openParen) (depth : Nat) : untilClose? depth (token :: rest) =
    (untilClose? (depth + 1) rest).map fun (inner, more) => (token :: inner, more) := by
  conv => lhs; unfold untilClose?
  simp only [h]

theorem untilClose?_close (h : token.kind = .closeParen) (depth : Nat) : untilClose? (depth + 1) (token :: rest) =
    (untilClose? depth rest).map fun (inner, more) => (token :: inner, more) := by
  conv => lhs; unfold untilClose?
  simp only [h]

theorem untilClose?_end (h : token.kind = .closeParen) :
    untilClose? 0 (token :: rest) = some ([], token, rest) := by
  unfold untilClose?
  simp only [h]

theorem untilClose?_other (ho : token.kind ≠ .openParen) (hc : token.kind ≠ .closeParen) (depth : Nat) :
    untilClose? depth (token :: rest) =
      (untilClose? depth rest).map fun (inner, more) => (token :: inner, more) := by
  conv => lhs; unfold untilClose?
  split
  · next h => exact absurd h hc
  · next h => exact absurd h hc
  · next h => exact absurd h ho
  · rfl

/-- Balanced tokens do not hold up the search for a parenthesis. -/
theorem untilClose?_append {commas : Bool} {tokens : List Token} (h : Balanced commas tokens) (depth : Nat)
    (tail : List Token) : untilClose? depth (tokens ++ tail) =
      (untilClose? depth tail).map fun (inner, more) => (tokens ++ inner, more) := by
  induction h generalizing depth tail with
  | nil => simp
  | token ho hc _ _ ih =>
    rw [List.cons_append, untilClose?_other ho hc, ih, Option.map_map]
    rfl
  | parens ho hc _ _ ihi ih =>
    rw [List.cons_append, List.append_assoc, List.cons_append, untilClose?_open ho, ihi, untilClose?_close hc, ih]
    simp only [Option.map_map]
    congr 1
    funext found
    simp

/-- The parenthesis behind balanced tokens closes them. -/
theorem untilClose?_call {commas : Bool} {inner : List Token} {closing : Token} (h : Balanced commas inner)
    (hc : closing.kind = .closeParen) (tail : List Token) :
    untilClose? 0 (inner ++ closing :: tail) = some (inner, closing, tail) := by
  rw [untilClose?_append h, untilClose?_end hc]
  simp

theorem argumentsFrom_open (h : token.kind = .openParen) (close depth : Nat) (current : List Token) :
    argumentsFrom close depth current (token :: rest) =
      argumentsFrom close (depth + 1) (current ++ [token]) rest := by
  conv => lhs; unfold argumentsFrom
  simp [h]

theorem argumentsFrom_close (h : token.kind = .closeParen) (close depth : Nat) (current : List Token) :
    argumentsFrom close (depth + 1) current (token :: rest) =
      argumentsFrom close depth (current ++ [token]) rest := by
  conv => lhs; unfold argumentsFrom
  simp [h]

theorem argumentsFrom_other (ho : token.kind ≠ .openParen) (hc : token.kind ≠ .closeParen) {depth : Nat}
    (hcomma : token.kind = .comma → 0 < depth) (close : Nat) (current : List Token) :
    argumentsFrom close depth current (token :: rest) = argumentsFrom close depth (current ++ [token]) rest := by
  conv => lhs; unfold argumentsFrom
  have hinside : ¬ (token.kind = .comma ∧ depth = 0) := fun h => by have := hcomma h.1; omega
  rw [if_neg hinside]
  dsimp only
  split
  · next h => exact absurd h ho
  · next h => exact absurd h hc
  · rfl

/-- Balanced tokens become part of the current argument. -/
theorem argumentsFrom_append {commas : Bool} {tokens : List Token} (h : Balanced commas tokens) {depth : Nat}
    (hdepth : commas = true → 0 < depth) (close : Nat) (current tail : List Token) :
    argumentsFrom close depth current (tokens ++ tail) = argumentsFrom close depth (current ++ tokens) tail := by
  induction h generalizing depth current tail with
  | nil => rw [List.nil_append, List.append_nil]
  | token ho hc hcomma _ ih =>
    rw [List.cons_append, argumentsFrom_other ho hc fun h => hdepth (hcomma h), ih hdepth, List.append_assoc,
      List.singleton_append]
  | parens ho hc _ _ ihi ih =>
    rw [List.cons_append, List.append_assoc, List.cons_append, argumentsFrom_open ho,
      ihi fun _ => Nat.succ_pos depth, argumentsFrom_close hc, ih hdepth]
    simp

/-- The arguments of a call are what its commas separate. -/
theorem argumentsFrom_written {first : List Token} {rest : List Argument} (hfirst : first ≠ [])
    (hcomma : ∀ a ∈ rest, a.comma.kind = .comma) (h : ∀ a ∈ rest, Balanced false a.tokens ∧ a.tokens ≠ [])
    (close : Nat) : argumentsFrom close 0 first (rest.flatMap Argument.written) =
      .ok (first :: rest.map Argument.tokens) := by
  induction rest generalizing first with
  | nil => simp [argumentsFrom, hfirst]
  | cons a rest ih =>
    have ha := hcomma a List.mem_cons_self
    obtain ⟨hbalanced, hne⟩ := h a List.mem_cons_self
    have hrest := ih hne (fun b hb => hcomma b (List.mem_cons_of_mem a hb)) fun b hb =>
      h b (List.mem_cons_of_mem a hb)
    rw [List.flatMap_cons, Argument.written, List.cons_append, argumentsFrom, if_pos ⟨ha, rfl⟩]
    rw [argumentsFrom_append hbalanced (absurd · Bool.false_ne_true), List.nil_append, hrest]
    simp only [List.isEmpty_iff, hfirst, ↓reduceIte]
    rfl

theorem splitArguments_call {first : List Token} {rest : List Argument} (hbalanced : Balanced false first)
    (hfirst : first ≠ []) (hcomma : ∀ a ∈ rest, a.comma.kind = .comma)
    (h : ∀ a ∈ rest, Balanced false a.tokens ∧ a.tokens ≠ []) (close : Nat) :
    splitArguments close (first ++ rest.flatMap Argument.written) = .ok (first :: rest.map Argument.tokens) := by
  have hne : (first ++ rest.flatMap Argument.written).isEmpty = false := by simp [hfirst]
  rw [splitArguments, hne]
  rw [if_neg Bool.false_ne_true, argumentsFrom_append hbalanced (absurd · Bool.false_ne_true), List.nil_append]
  exact argumentsFrom_written hfirst hcomma h close

end Expansion

/-- The tokens of some arguments are balanced, and the arguments are found in them. -/
theorem Derives.arguments_found {levels : Nat} {first : List Token} {e : Expr} {rest : List Argument}
    (hfirst : Derives .comparison levels first e) (hcomma : ∀ a ∈ rest, a.comma.kind = .comma)
    (hrest : ∀ a ∈ rest, Derives .comparison levels a.tokens a.tree) (close : Nat) :
    Balanced true (first ++ rest.flatMap Argument.written) ∧
      splitArguments close (first ++ rest.flatMap Argument.written) = .ok (first :: rest.map Argument.tokens) := by
  have hbalanced : ∀ a ∈ rest, Balanced false a.tokens ∧ a.tokens ≠ [] := fun a ha =>
    ⟨(hrest a ha).balanced, (hrest a ha).ne_nil⟩
  constructor
  · exact hfirst.balanced.allow.append (balanced_written hcomma fun a ha => (hbalanced a ha).1)
  · exact splitArguments_call hfirst.balanced hfirst.ne_nil hcomma hbalanced close

end FormRules.Formula
