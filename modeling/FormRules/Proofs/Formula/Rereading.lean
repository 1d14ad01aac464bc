import FormRules.Formula.Engine
import FormRules.Proofs.Formula.Signs
import FormRules.Proofs.Formula.Written

/-!
# Reading expanded formulas again

The text of a phrase is read as a phrase of the same tier if all its tokens are spelled, and is refused else
(`Derives.rereads`). The tokens may be others than those that the text was written for: a minus in front of a
number becomes its sign, and the name of a function is taken to upper case once more. The induction is over the
derivation of the phrase; it is known of each part what may follow it. So the text of an expanded formula is one
that is accepted exactly if all tokens of the expansion are spelled (`check_expanded_iff`).
-/

namespace FormRules.Formula

open Lexeme

/-- What is written for some tokens. -/
def writtenAll (tokens : List Token) : List Char := tokens.flatMap Token.written

@[simp] theorem writtenAll_append (left right : List Token) :
    writtenAll (left ++ right) = writtenAll left ++ writtenAll right := List.flatMap_append

@[simp] theorem writtenAll_cons (t : Token) (tokens : List Token) :
    writtenAll (t :: tokens) = t.written ++ writtenAll tokens := rfl

@[simp] theorem writtenAll_nil : writtenAll [] = [] := rfl

/-- Where `Next` holds of what follows, the text of the tokens is read as tokens that `R` holds of if all of them
are spelled, and refused else. -/
structure Rereads (before after : Bool) (Next : List Char → Prop) (tokens : List Token) (R : List Token → Prop) :
    Prop where
  accepted : (∀ t ∈ tokens, t.Spelled) → ∀ position tail, Next tail → ∃ out next, R out ∧
    tokenizeFrom before position (writtenAll tokens ++ tail) = (tokenizeFrom after next tail).map (out ++ ·)
  refused : (¬ ∀ t ∈ tokens, t.Spelled) → Refused before Next (writtenAll tokens)

namespace Rereads

variable {before middle after : Bool} {Next Next' : List Char → Prop} {tokens left right : List Token}
  {L R R' : List Token → Prop}

theorem mono (h : Rereads before after Next tokens R) (hR : (∀ t ∈ tokens, t.Spelled) → ∀ out, R out → R' out) :
    Rereads before after Next tokens R' where
  accepted hspelled position tail htail := by
    obtain ⟨out, next, hout, heq⟩ := h.accepted hspelled position tail htail
    exact ⟨out, next, hR hspelled out hout, heq⟩
  refused := h.refused

theorem nil (hR : R []) : Rereads after after Next [] R where
  accepted _ position tail _ := by
    refine ⟨[], position, hR, ?_⟩
    show tokenizeFrom after position tail = _
    cases tokenizeFrom after position tail <;> rfl
  refused h := absurd nofun h

theorem append (hl : Rereads before middle Next left L) (hr : Rereads middle after Next' right R)
    (hnext : ∀ tail, Next' tail → Next (writtenAll right ++ tail)) :
    Rereads before after Next' (left ++ right) fun out => ∃ l r, out = l ++ r ∧ L l ∧ R r where
  accepted hspelled position tail htail := by
    obtain ⟨hleft, hright⟩ := List.forall_mem_append.mp hspelled
    obtain ⟨l, next, hL, heq⟩ := hl.accepted hleft position _ (hnext tail htail)
    obtain ⟨r, next', hR, heq'⟩ := hr.accepted hright next tail htail
    refine ⟨l ++ r, next', ⟨l, r, rfl, hL, hR⟩, ?_⟩
    rw [writtenAll_append, List.append_assoc, heq, heq']
    cases tokenizeFrom after next' tail with
    | error e => rfl
    | ok more => simp [Except.map]
  refused hspelled position tail htail := by
    rw [writtenAll_append, List.append_assoc]
    by_cases hleft : ∀ t ∈ left, t.Spelled
    · have hright : ¬ ∀ t ∈ right, t.Spelled := fun h => hspelled (List.forall_mem_append.mpr ⟨hleft, h⟩)
      obtain ⟨l, next, -, heq⟩ := hl.accepted hleft position _ (hnext tail htail)
      obtain ⟨e, he⟩ := hr.refused hright next tail htail
      exact ⟨e, by rw [heq, he]; rfl⟩
    · exact hl.refused hleft position _ (hnext tail htail)

variable {t : Token}

theorem of_reads {kind : TokenKind} {text : String} (hspelled : t.Spelled) (h : Reads before Next t.written kind text)
    (hafter : kind.endsOperand = after) (hR : ∀ position, R [⟨kind, text, position⟩]) :
    Rereads before after Next [t] R where
  accepted _ position tail htail := by
    refine ⟨_, position + t.written.length, hR position, ?_⟩
    rw [writtenAll_cons, writtenAll_nil, List.append_nil, ← hafter]
    exact h.tokenizeFrom_append htail position
  refused hno := absurd (by simpa using hspelled) hno

theorem of_refused (hspelled : ¬ t.Spelled) (h : Refused before Next t.written) :
    Rereads before after Next [t] R where
  accepted hall := absurd (hall t List.mem_cons_self) hspelled
  refused _ := by
    rw [writtenAll_cons, writtenAll_nil, List.append_nil]
    exact h

end Rereads

/-! ### Single tokens -/

/-- The tokens are a phrase. -/
def Phrase (tier : Tier) (levels : Nat) (tokens : List Token) : Prop := ∃ e, Derives tier levels tokens e

/-- The tokens of the second list are what is read for a phrase, and they are a phrase as well. -/
structure Rewritten (tier : Tier) (levels : Nat) (tokens out : List Token) : Prop where
  phrase : Phrase tier levels out
  rewrites : Rewrites false true tokens out

/-- All tokens have a text of their kind. -/
def AllShaped (tokens : List Token) : Prop := ∀ t ∈ tokens, Shaped t.kind t.text

/-- The token, at some position. -/
def Same (t : Token) (out : List Token) : Prop := ∃ position, out = [{ t with position }]

theorem rereads_same {t : Token} {before after : Bool} {Next : List Char → Prop} (hnumber : t.kind ≠ .number)
    (hfunction : t.kind ≠ .function) (h : Reads before Next t.written t.kind t.text)
    (hafter : t.kind.endsOperand = after) : Rereads before after Next [t] (Same t) :=
  .of_reads (Token.spelled_of_kind hnumber hfunction) h hafter fun position => ⟨position, rfl⟩

section

variable {t : Token} (hs : Shaped t.kind t.text)

include hs

theorem rereads_operand (hk : t.kind = .field ∨ t.kind = .text ∨ t.kind = .boolean) :
    Rereads false true Follows [t] (Same t) := by
  obtain ⟨kind, text, position⟩ := t
  cases kind with
  | field => exact rereads_same (by simp) (by simp) (reads_field hs false Follows) rfl
  | text => exact rereads_same (by simp) (by simp) (reads_text false text) rfl
  | boolean => exact rereads_same (by simp) (by simp) (reads_truth hs false) rfl
  | _ => simp at hk

theorem rereads_opening (hk : t.kind = .openParen) (before : Bool) (Next : List Char → Prop) :
    Rereads before false Next [t] (Same t) := by
  obtain ⟨kind, text, position⟩ := t
  obtain rfl : kind = .openParen := hk
  obtain rfl : text = "(" := hs
  exact rereads_same (by simp) (by simp) (reads_opening before Next) rfl

theorem rereads_closing (hk : t.kind = .closeParen) (before : Bool) (Next : List Char → Prop) :
    Rereads before true Next [t] (Same t) := by
  obtain ⟨kind, text, position⟩ := t
  obtain rfl : kind = .closeParen := hk
  obtain rfl : text = ")" := hs
  exact rereads_same (by simp) (by simp) (reads_closing before Next) rfl

theorem rereads_comma (hk : t.kind = .comma) (before : Bool) (Next : List Char → Prop) :
    Rereads before false Next [t] (Same t) := by
  obtain ⟨kind, text, position⟩ := t
  obtain rfl : kind = .comma := hk
  obtain rfl : text = "," := hs
  exact rereads_same (by simp) (by simp) (reads_comma before Next) rfl

theorem rereads_number (hk : t.kind = .number) : Rereads false true Follows [t] (Same t) := by
  obtain ⟨kind, text, position⟩ := t
  obtain rfl : kind = .number := hk
  by_cases hfinite : text ∈ nonfiniteWords
  · exact .of_refused (fun hspelled => hspelled.number rfl hfinite) (refused_nonfinite hfinite false)
  · have hread := reads_numeral (hs.resolve_right hfinite)
    rw [String.ofList_toList] at hread
    exact .of_reads ⟨fun _ => hfinite, by simp⟩ hread rfl fun position => ⟨position, rfl⟩

/-- The name of a function is read as its upper case, maybe another name. -/
theorem rereads_name (hk : t.kind = .function) :
    Rereads false false (fun tail => tail.head? = some '(') [t]
      fun out => ∃ position, out = [⟨.function, Text.upper t.text, position⟩] := by
  obtain ⟨kind, text, position⟩ := t
  obtain rfl : kind = .function := hk
  obtain ⟨htrue, hfalse, word, hword, htext⟩ := hs
  have hupper : text.toList = Text.upperChars word := by
    rw [show text = _ from htext, Text.upper, String.toList_ofList, String.toList_ofList]
  by_cases hw : isWord text.toList = true
  · exact .of_reads ⟨by simp, fun _ => hw⟩ (reads_name htext htrue hfalse hw false) rfl fun position => ⟨position, rfl⟩
  · refine .of_refused (fun hspelled => hw (hspelled.function rfl)) ?_
    show Refused _ _ text.toList
    rw [hupper] at hw ⊢
    exact refused_name hword (Bool.eq_false_iff.mpr hw) false _

end

/-! ### Operators -/

theorem rereads_joint {tier : Tier} {op : Token} {join : Expr → Expr → Expr} (h : tier.joint op = some join) :
    Rereads true false EndsOperator [op] (Same op) := by
  have hread := reads_operator (Tier.text_mem_symbols h)
  obtain ⟨kind, text, position⟩ := op
  obtain rfl : kind = .operator := (Tier.joint_cases h).1
  exact rereads_same (by simp) (by simp) hread rfl

/-- A minus in front of an operand that does not start with a number. -/
theorem rereads_minus {op : Token} (hk : op.kind = .operator) (ht : op.text = "-") :
    Rereads false false (fun tail => startsNumber tail = false ∧ EndsOperator tail) [op] (Same op) := by
  obtain ⟨kind, text, position⟩ := op
  obtain rfl : kind = .operator := hk
  obtain rfl : text = "-" := ht
  exact rereads_same (by simp) (by simp) (reads_minus false) rfl

/-- A joining operator may follow an operand. -/
theorem follows_joint {tier : Tier} {op : Token} {join : Expr → Expr → Expr} (h : tier.joint op = some join)
    (rest : List Token) (tail : List Char) : Follows (writtenAll (op :: rest) ++ tail) := by
  have hall : ∀ tier : Tier, ∀ symbol ∈ tier.symbols, symbol.toList.head?.any (· ∈ joints) = true := by
    intro tier
    cases tier <;> decide
  obtain ⟨c, hhead, hc⟩ := (Option.any_eq_true _ _).mp (hall tier op.text (Tier.text_mem_symbols h))
  obtain ⟨kind, text, position⟩ := op
  obtain rfl : kind = .operator := (Tier.joint_cases h).1
  rw [writtenAll_cons, List.append_assoc]
  intro d hd
  change (text.toList ++ _).head? = some d at hd
  rw [List.head?_append, show text.toList.head? = some c from hhead] at hd
  cases hd
  exact of_decide_eq_true hc

/-! ### The start of a phrase -/

/-- A character that starts no number and goes on with no operator. -/
def StartsOther (c : Char) : Prop := c ∉ ['=', '>', '.'] ∧ c.isDigit = false

instance (c : Char) : Decidable (StartsOther c) := inferInstanceAs (Decidable (_ ∧ _))

theorem startsOther_of_not_mark {c : Char} (hmark : c ∉ marks) (hdigit : c.isDigit = false) : StartsOther c := by
  have hsub : ∀ c ∈ ['=', '>', '.'], c ∈ marks := List.all_iff_forall_prop.mp (by decide)
  exact ⟨fun hc => hmark (hsub c hc), hdigit⟩

/-- What is written for a token that may start a phrase starts no number and goes on with no operator, but for a
number without a sign. -/
theorem startsOther_or_unsigned {t : Token} (hs : Shaped t.kind t.text) (heof : t.kind ≠ .eof)
    (hoperator : t.kind = .operator → t.text = "-") :
    (∃ c rest, t.written = c :: rest ∧ StartsOther c) ∨ t.kind = .number ∧ IsUnsigned t.written := by
  obtain ⟨kind, text, position⟩ := t
  have hfixed (h : text ∈ ["inf", "-inf", "NaN", "TRUE", "FALSE", "-", "(", ")", ","]) :
      ∃ c rest, text.toList = c :: rest ∧ StartsOther c := by
    have hall : ∀ text ∈ ["inf", "-inf", "NaN", "TRUE", "FALSE", "-", "(", ")", ","],
        text.toList.head?.any (StartsOther ·) = true := by decide
    obtain ⟨c, hc, hstarts⟩ := (Option.any_eq_true _ _).mp (hall text h)
    obtain ⟨rest, htext⟩ := List.head?_eq_some_iff.mp hc
    exact ⟨c, rest, htext, of_decide_eq_true hstarts⟩
  cases kind with
  | field => exact .inl ⟨'[', _, rfl, by decide⟩
  | text => exact .inl ⟨'"', _, rfl, by decide⟩
  | number =>
    rcases hs with (hunsigned | ⟨body, htext, -⟩) | hnonfinite
    · exact .inr ⟨rfl, hunsigned⟩
    · exact .inl ⟨'-', body, htext, by decide⟩
    · have hsub : ∀ text ∈ nonfiniteWords, text ∈ ["inf", "-inf", "NaN", "TRUE", "FALSE", "-", "(", ")", ","] := by
        decide
      exact .inl (hfixed (hsub text hnonfinite))
  | boolean => rcases hs with rfl | rfl <;> exact .inl (hfixed (by decide))
  | function =>
    obtain ⟨-, -, word, hword, htext⟩ := hs
    obtain ⟨c, rest, hupper, hc, -⟩ := exists_upperChars_cons hword
    have hwritten : text.toList = c :: rest := by
      rw [show text = _ from htext, Text.upper, String.toList_ofList, String.toList_ofList, hupper]
    refine .inl ⟨c, rest, hwritten, ?_⟩
    rcases hc with hstart | hstray
    · exact startsOther_of_not_mark (not_mem_marks (isNameChar_of_isNameStart hstart)) (isDigit_of_isNameStart hstart)
    · exact startsOther_of_not_mark hstray.not_mem_marks hstray.isDigit_eq_false
  | operator =>
    obtain rfl : text = "-" := hoperator rfl
    exact .inl (hfixed (by decide))
  | openParen =>
    obtain rfl : text = "(" := hs
    exact .inl (hfixed (by decide))
  | closeParen =>
    obtain rfl : text = ")" := hs
    exact .inl (hfixed (by decide))
  | comma =>
    obtain rfl : text = "," := hs
    exact .inl (hfixed (by decide))
  | eof => exact absurd rfl heof

namespace Derives

variable {tier : Tier} {levels : Nat} {tokens : List Token} {e : Expr}

/-- The only operator that a phrase may start with is a minus. -/
theorem text_of_operator_head (h : Derives tier levels tokens e) :
    ∀ t, tokens.head? = some t → t.kind = .operator → t.text = "-" := by
  induction h with
  | minus _ htext _ _ =>
    intro t ht _
    cases ht
    exact htext
  | single _ _ ih => exact ih
  | joined hl _ _ ih _ =>
    intro t ht
    obtain ⟨first, rest, rfl, -⟩ := hl.exists_cons
    exact ih t ht
  | _ =>
    intro t ht hk
    cases ht
    simp_all

/-- A phrase starts no number and goes on with no operator, but for a number without a sign. -/
theorem exists_head (h : Derives tier levels tokens e) (hs : AllShaped tokens) :
    ∃ t rest, tokens = t :: rest ∧
      ((∃ c cs, t.written = c :: cs ∧ StartsOther c) ∨ t.kind = .number ∧ IsUnsigned t.written) := by
  have hoperator := h.text_of_operator_head
  obtain ⟨t, rest, rfl, -⟩ := h.exists_cons
  exact ⟨t, rest, rfl, startsOther_or_unsigned (hs t List.mem_cons_self) (h.kind_ne_eof t List.mem_cons_self)
    (hoperator t rfl)⟩

theorem endsOperator (h : Derives tier levels tokens e) (hs : AllShaped tokens) (tail : List Char) :
    EndsOperator (writtenAll tokens ++ tail) := by
  have hhead : ∃ c cs, writtenAll tokens = c :: cs ∧ c ≠ '=' ∧ c ≠ '>' := by
    obtain ⟨t, rest, rfl, ⟨c, cs, hwritten, hmark, -⟩ | ⟨-, hunsigned⟩⟩ := h.exists_head hs
    · refine ⟨c, cs ++ writtenAll rest, by rw [writtenAll_cons, hwritten]; rfl, ?_⟩
      exact ⟨fun heq => hmark (by simp [heq]), fun heq => hmark (by simp [heq])⟩
    · obtain ⟨c, cs, hwritten, hc⟩ := hunsigned.head
      refine ⟨c, cs ++ writtenAll rest, by rw [writtenAll_cons, hwritten]; rfl, ?_, ?_⟩
      · rintro rfl
        simp at hc
      · rintro rfl
        simp at hc
  obtain ⟨c, cs, hwritten, hc⟩ := hhead
  intro d hd
  rw [hwritten] at hd
  cases hd
  exact hc

/-- Only a number without a sign starts like a number. -/
theorem startsNumber_cases (h : Derives .atom levels tokens e) (hs : AllShaped tokens) :
    (∃ t x, tokens = [t] ∧ t.kind = .number ∧ IsUnsigned t.written ∧
      Binary64.read? t.text.toList = some x) ∨ ∀ tail, startsNumber (writtenAll tokens ++ tail) = false := by
  obtain ⟨t, rest, rfl, ⟨c, cs, hwritten, hmark, hdigit⟩ | ⟨hk, hunsigned⟩⟩ := h.exists_head hs
  · right
    intro tail
    have hpoint : c ≠ '.' := fun heq => hmark (by simp [heq])
    rw [writtenAll_cons, hwritten, List.append_assoc, List.cons_append, startsNumber_cons hpoint, hdigit]
  · left
    generalize htokens : t :: rest = tokens at h
    cases h with
    | number _ hx =>
      cases htokens
      exact ⟨t, _, rfl, hk, hunsigned, hx⟩
    | single ht _ => exact absurd rfl ht
    | joined _ hj _ => cases hj
    | _ => simp_all

end Derives

/-! ### Numbers with a sign -/

theorem IsUnsigned.not_nonfinite {text : String} (h : IsUnsigned text.toList) : text ∉ nonfiniteWords := by
  have hall : ∀ text ∈ nonfiniteWords, text.toList.head?.any (StartsOther ·) = true := by decide
  intro hmem
  obtain ⟨c, rest, htext, hc⟩ := h.head
  have hstarts : StartsOther c := by
    have hany := hall text hmem
    rw [htext] at hany
    exact of_decide_eq_true hany
  rcases hc with hdigit | rfl
  · rw [hstarts.2] at hdigit
    cases hdigit
  · exact absurd hstarts (by decide)

theorem exists_read?_minus {cs : List Char} {x : Binary64} (h : IsUnsigned cs) (hx : Binary64.read? cs = some x) :
    ∃ y, Binary64.read? ('-' :: cs) = some y := by
  have hsplit : Decimal.splitSign cs = (false, cs) := by
    obtain ⟨c, rest, rfl, hc⟩ := h.head
    unfold Decimal.splitSign
    split
    · next heq =>
      cases heq
      simp at hc
    · next heq =>
      cases heq
      simp at hc
    · rfl
  have hminus : Decimal.splitSign ('-' :: cs) = (true, cs) := rfl
  unfold Binary64.read? at hx ⊢
  rw [hsplit] at hx
  rw [hminus]
  dsimp only at hx ⊢
  split at hx
  · next hinfinite => exact ⟨_, if_pos hinfinite⟩
  · next hinfinite =>
    rw [if_neg hinfinite]
    split at hx
    · next hnan => exact ⟨_, if_pos hnan⟩
    · next hnan =>
      obtain ⟨d, hd, -⟩ := Option.map_eq_some_iff.mp hx
      exact ⟨_, by rw [if_neg hnan, hd, Option.map_some]⟩

theorem IsUnsigned.head_ne_minus {cs : List Char} (h : IsUnsigned cs) : cs.head? ≠ some '-' := by
  obtain ⟨c, rest, rfl, hc⟩ := h.head
  intro hminus
  obtain rfl : c = '-' := Option.some.inj hminus
  simp at hc

/-- A minus right in front of a number without a sign becomes its sign. -/
theorem rereads_sign {op t : Token} {x : Binary64} (hop : op.kind = .operator) (hminus : op.text = "-")
    (hk : t.kind = .number) (hunsigned : IsUnsigned t.written) (hx : Binary64.read? t.text.toList = some x)
    (levels : Nat) : Rereads false true Follows [op, t] (Rewritten .atom levels [op, t]) := by
  obtain ⟨kind, text, position⟩ := t
  obtain rfl : kind = .number := hk
  obtain ⟨kind', text', position'⟩ := op
  obtain rfl : kind' = .operator := hop
  obtain rfl : text' = "-" := hminus
  obtain ⟨y, hy⟩ := exists_read?_minus hunsigned hx
  have hwritten : writtenAll [⟨.operator, "-", position'⟩, ⟨.number, text, position⟩] = '-' :: text.toList := by
    have hsign : "-".toList = ['-'] := rfl
    rw [writtenAll_cons, writtenAll_cons, writtenAll_nil, List.append_nil]
    show "-".toList ++ text.toList = _
    rw [hsign]
    rfl
  constructor
  · intro _ start tail htail
    have hread := (reads_signed hunsigned).tokenizeFrom_append htail start
    have hsign : IsSign false ⟨.operator, "-", position'⟩ ⟨.number, text, position⟩ :=
      ⟨rfl, ⟨rfl, rfl⟩, rfl, IsUnsigned.head_ne_minus hunsigned⟩
    have htext : "-" ++ text = String.ofList ('-' :: text.toList) := by
      rw [← String.toList_inj, String.toList_append]
      exact String.toList_ofList.symm
    have hrewrites := Rewrites.sign hsign start
    rw [htext] at hrewrites
    rw [hwritten]
    exact ⟨_, _, ⟨⟨_, .number rfl (by rw [String.toList_ofList]; exact hy)⟩, hrewrites⟩, hread⟩
  · intro hspelled
    refine absurd ?_ hspelled
    simp only [List.forall_mem_cons, List.not_mem_nil, false_implies, implies_true, and_true]
    exact ⟨Token.spelled_of_kind (by simp) (by simp), fun _ => IsUnsigned.not_nonfinite hunsigned, by simp⟩

/-! ### Parentheses and commas -/

theorem follows_mark {t : Token} (hs : Shaped t.kind t.text) (hk : t.kind = .closeParen ∨ t.kind = .comma)
    (rest : List Token) (tail : List Char) : Follows (writtenAll (t :: rest) ++ tail) := by
  obtain ⟨kind, text, position⟩ := t
  rw [writtenAll_cons, List.append_assoc]
  rcases hk with hk | hk
  · obtain rfl : kind = .closeParen := hk
    obtain rfl : text = ")" := hs
    have hwritten : ")".toList = [')'] := rfl
    show Follows (")".toList ++ _)
    rw [hwritten]
    exact follows_cons (by decide)
  · obtain rfl : kind = .comma := hk
    obtain rfl : text = "," := hs
    have hwritten : ",".toList = [','] := rfl
    show Follows (",".toList ++ _)
    rw [hwritten]
    exact follows_cons (by decide)

theorem head_opening {t : Token} (hs : Shaped t.kind t.text) (hk : t.kind = .openParen) (rest : List Token)
    (tail : List Char) : (writtenAll (t :: rest) ++ tail).head? = some '(' := by
  obtain ⟨kind, text, position⟩ := t
  obtain rfl : kind = .openParen := hk
  obtain rfl : text = "(" := hs
  have hwritten : "(".toList = ['('] := rfl
  rw [writtenAll_cons, List.append_assoc]
  show ("(".toList ++ _).head? = some '('
  rw [hwritten]
  rfl

/-- What stands in parentheses is read again between the same parentheses. -/
theorem rereads_parens {opening closing : Token} {inner : List Token} {after : Bool} {R : List Token → Prop}
    (hopening : Shaped opening.kind opening.text) (ho : opening.kind = .openParen)
    (hclosing : Shaped closing.kind closing.text) (hc : closing.kind = .closeParen)
    (h : Rereads false after Follows inner R) : Rereads false true Follows (opening :: (inner ++ [closing]))
      fun out => ∃ o l c, out = o ++ (l ++ c) ∧ Same opening o ∧ R l ∧ Same closing c := by
  have hinner := h.append (rereads_closing hclosing hc after Follows) fun tail _ =>
    follows_mark hclosing (.inl hc) [] tail
  have hall := (rereads_opening hopening ho false fun _ => True).append hinner fun _ _ => trivial
  refine hall.mono ?_
  rintro - _ ⟨o, _, rfl, ho', l, c, rfl, hl, hc'⟩
  exact ⟨o, l, c, rfl, ho', hl, hc'⟩

theorem follows_arguments {rest : List Argument} (hcomma : ∀ a ∈ rest, a.comma.kind = .comma)
    (hs : AllShaped (rest.flatMap Argument.written)) {tail : List Char} (htail : Follows tail) :
    Follows (writtenAll (rest.flatMap Argument.written) ++ tail) := by
  cases rest with
  | nil => exact htail
  | cons a rest =>
    have hshaped : Shaped a.comma.kind a.comma.text := hs a.comma (by simp [Argument.written])
    rw [List.flatMap_cons, Argument.written, List.cons_append]
    exact follows_mark hshaped (.inr (hcomma a List.mem_cons_self)) _ tail

/-- The arguments behind the first one, with their commas. -/
theorem rereads_arguments {levels : Nat} {rest : List Argument} (hcomma : ∀ a ∈ rest, a.comma.kind = .comma)
    (hs : AllShaped (rest.flatMap Argument.written))
    (h : ∀ a ∈ rest, Rereads false true Follows a.tokens (Rewritten .comparison levels a.tokens)) :
    Rereads true true Follows (rest.flatMap Argument.written) fun out => ∃ rest' : List Argument,
      out = rest'.flatMap Argument.written ∧ Rewrites true true (rest.flatMap Argument.written) out ∧
      ∀ a ∈ rest', a.comma.kind = .comma ∧ Derives .comparison levels a.tokens a.tree := by
  induction rest with
  | nil => exact .nil ⟨[], rfl, .nil, nofun⟩
  | cons a rest ih =>
    obtain ⟨ha, hcomma⟩ := List.forall_mem_cons.mp hcomma
    obtain ⟨hfirst, h⟩ := List.forall_mem_cons.mp h
    rw [AllShaped, List.flatMap_cons, List.forall_mem_append] at hs
    have hshaped : Shaped a.comma.kind a.comma.text := hs.1 a.comma List.mem_cons_self
    have hargument := (rereads_comma hshaped ha true fun _ => True).append hfirst fun _ _ => trivial
    have hall := hargument.append (ih hcomma hs.2 h) fun tail htail =>
      follows_arguments hcomma hs.2 htail
    refine hall.mono ?_
    rintro - _ ⟨_, _, rfl, ⟨_, tokens, rfl, ⟨position, rfl⟩, ⟨e, hd⟩, hsame⟩, rest', rfl, hbehind, hrest⟩
    refine ⟨⟨{ a.comma with position }, tokens, e⟩ :: rest', by simp [Argument.written], ?_, ?_⟩
    · exact ((Rewrites.same ha (.inl rfl) (by decide) position).append hsame).append hbehind
    · exact List.forall_mem_cons.mpr ⟨⟨ha, hd⟩, hrest⟩

/-! ### Phrases -/

/-- A number behind a minus that starts like a number has no sign. -/
theorem not_isSign {before : Bool} {op t : Token} {rest : List Token} (hs : Shaped t.kind t.text) (hspelled : t.Spelled)
    (h : startsNumber (writtenAll (t :: rest)) = false) : ¬ IsSign before op t := by
  rintro ⟨-, -, hk, hhead⟩
  obtain ⟨kind, text, position⟩ := t
  obtain rfl : kind = .number := hk
  rcases hs with (hunsigned | ⟨body, hbody, -⟩) | hnonfinite
  · rw [writtenAll_cons] at h
    exact absurd ((hunsigned.startsNumber_append _).symm.trans h) (by decide)
  · exact hhead (congrArg List.head? hbody)
  · exact hspelled.number rfl hnonfinite

/-- What is written for a phrase is read as the phrase with its signs merged if all tokens are spelled, and refused
else. -/
theorem Derives.rewrites {tier : Tier} {levels : Nat} {tokens : List Token} {e : Expr}
    (h : Derives tier levels tokens e) (hs : AllShaped tokens) :
    Rereads false true Follows tokens (Rewritten tier levels tokens) := by
  induction h with
  | field hk =>
    refine (rereads_operand (hs _ List.mem_cons_self) (.inl hk)).mono ?_
    rintro - _ ⟨position, rfl⟩
    exact ⟨⟨_, .field hk⟩, .same hk (.inr (by decide)) (by decide) position⟩
  | text hk =>
    refine (rereads_operand (hs _ List.mem_cons_self) (.inr (.inl hk))).mono ?_
    rintro - _ ⟨position, rfl⟩
    exact ⟨⟨_, .text hk⟩, .same hk (.inr (by decide)) (by decide) position⟩
  | boolean hk =>
    refine (rereads_operand (hs _ List.mem_cons_self) (.inr (.inr hk))).mono ?_
    rintro - _ ⟨position, rfl⟩
    exact ⟨⟨_, .boolean hk⟩, .same hk (.inr (by decide)) (by decide) position⟩
  | number hk hx =>
    refine (rereads_number (hs _ List.mem_cons_self) hk).mono ?_
    rintro - _ ⟨position, rfl⟩
    exact ⟨⟨_, .number hk hx⟩, .same hk (.inr (by decide)) (by decide) position⟩
  | @emptyCall levels name opening closing hn ho hc =>
    simp only [AllShaped, List.forall_mem_cons] at hs
    obtain ⟨hname, hopening, hclosing, -⟩ := hs
    have hparens := rereads_parens hopening ho hclosing hc (.nil (R := (· = [])) rfl)
    have hall := (rereads_name hname hn).append hparens fun tail _ => head_opening hopening ho _ tail
    refine hall.mono ?_
    rintro - _ ⟨_, _, rfl, ⟨position, rfl⟩, _, _, _, rfl, ⟨position', rfl⟩, rfl, position'', rfl⟩
    exact ⟨⟨_, .emptyCall rfl ho hc⟩,
      (Rewrites.name hn position).append (.parens ho hc .nil position' position'')⟩
  | @call levels name opening closing first e rest hn ho hc hf hcomma hr ihf ihr =>
    simp only [AllShaped, List.forall_mem_cons, List.forall_mem_append] at hs
    obtain ⟨hname, hopening, ⟨hfirst, hrest⟩, hclosing, -⟩ := hs
    have harguments := rereads_arguments hcomma hrest fun a ha => ihr a ha fun t ht =>
      hrest t (List.mem_flatMap.mpr ⟨a, ha, List.mem_cons_of_mem _ ht⟩)
    have hinner := (ihf hfirst).append harguments fun tail htail => follows_arguments hcomma hrest htail
    have hparens := rereads_parens hopening ho hclosing hc hinner
    have hall := (rereads_name hname hn).append hparens fun tail _ => head_opening hopening ho _ tail
    refine hall.mono ?_
    rintro - _ ⟨_, _, rfl, ⟨position, rfl⟩, _, _, _, rfl, ⟨position', rfl⟩,
      ⟨_, _, rfl, ⟨⟨e', hd⟩, hsame⟩, rest', rfl, hbehind, hrest'⟩, position'', rfl⟩
    refine ⟨⟨_, .call rfl ho hc hd (fun a ha => (hrest' a ha).1) fun a ha => (hrest' a ha).2⟩, ?_⟩
    exact (Rewrites.name hn position).append (.parens ho hc (hsame.append hbehind) position' position'')
  | @parens levels opening closing inner e ho hc hi ih =>
    simp only [AllShaped, List.forall_mem_cons, List.forall_mem_append] at hs
    obtain ⟨hopening, hinner, hclosing, -⟩ := hs
    refine (rereads_parens hopening ho hclosing hc (ih hinner)).mono ?_
    rintro - _ ⟨_, _, _, rfl, ⟨position, rfl⟩, ⟨⟨e', hd⟩, hsame⟩, position', rfl⟩
    exact ⟨⟨e', .parens ho hc hd⟩, .parens ho hc hsame position position'⟩
  | @minus levels op operand e hk ht hd ih =>
    simp only [AllShaped, List.forall_mem_cons] at hs
    obtain ⟨-, hoperand⟩ := hs
    rcases hd.startsNumber_cases hoperand with ⟨t, x, rfl, hnumber, hunsigned, hx⟩ | hother
    · exact rereads_sign hk ht hnumber hunsigned hx (levels + 1)
    · have hall := (rereads_minus hk ht).append (ih hoperand) fun tail _ =>
        ⟨hother tail, hd.endsOperator hoperand tail⟩
      refine hall.mono ?_
      rintro hspelled _ ⟨_, _, rfl, ⟨position, rfl⟩, ⟨e', hd'⟩, hsame⟩
      obtain ⟨t, rest, rfl, -⟩ := hd.exists_cons
      have hstart : startsNumber (writtenAll (t :: rest)) = false := by simpa using hother []
      have hno : ¬ IsSign false op t := not_isSign (hoperand t List.mem_cons_self) (hspelled t (by simp)) hstart
      exact ⟨⟨_, .minus hk ht hd'⟩, .minus hk hno hsame position⟩
  | single ht _ ih =>
    refine (ih hs).mono ?_
    rintro - out ⟨⟨e', hd⟩, hsame⟩
    exact ⟨⟨e', .single ht hd⟩, hsame⟩
  | @joined tier levels left right op l r join hl hj hr ihl ihr =>
    simp only [AllShaped, List.forall_mem_cons, List.forall_mem_append] at hs
    obtain ⟨hleft, hop, hright⟩ := hs
    have hrest := (rereads_joint hj).append (ihr hright) fun tail _ => hr.endsOperator hright tail
    have hall := (ihl hleft).append hrest fun tail _ => follows_joint hj right tail
    refine hall.mono ?_
    rintro - _ ⟨_, _, rfl, ⟨⟨l', hdl⟩, hsamel⟩, _, _, rfl, ⟨position, rfl⟩, ⟨r', hdr⟩, hsamer⟩
    have hk : op.kind = .operator := (Tier.joint_cases hj).1
    refine ⟨⟨join l' r', .joined hdl ?_ hdr⟩, ?_⟩
    · rw [Tier.joint_eq_some_iff] at hj ⊢
      exact hj
    · exact hsamel.append ((Rewrites.same hk (.inl rfl) (by decide) position).append hsamer)

/-- What is written for a phrase is read as a phrase if all tokens are spelled, and refused else. -/
theorem Derives.rereads {tier : Tier} {levels : Nat} {tokens : List Token} {e : Expr}
    (h : Derives tier levels tokens e) (hs : AllShaped tokens) :
    Rereads false true Follows tokens (Phrase tier levels) := (h.rewrites hs).mono fun _ _ hout => hout.phrase

/-! ### Whole formulas -/

/-- A formula is expanded to a phrase and its end. -/
theorem exists_phrase_of_expandTokens {ctx : Context} {formula : String} {tokens out : List Token} {e : Expr}
    (htokens : tokenize formula = .ok tokens) (hparse : parseTokens tokens = .ok e)
    (hout : expandTokens ctx tokens = .ok out) :
    ∃ body last e', out = body ++ [.eof last] ∧ Derives .comparison (maxLevels - 1) body e' := by
  obtain ⟨body, last, rfl, hbody⟩ := tokenizeFrom_eq_ok htokens
  rw [parseTokens_eq_ok_iff, formulaBody_append_eof fun token htoken => (hbody token htoken).1] at hparse
  have heof : Inert (.eof last) := inert_of_kind (by simp [Token.eof])
  have hphrase : Expands ctx body (Replaces ctx .comparison (maxLevels - 1) e) := hparse.expands (Nat.le_refl _)
  obtain ⟨result, hsplits, -, hok⟩ := hphrase.append (expands_self ctx heof)
  rw [hsplits.eq] at hout
  obtain ⟨⟨body', _, rfl, ⟨e', hd, -⟩, rfl⟩, -⟩ := hok out hout
  exact ⟨body', last, e', rfl, hd⟩

theorem tokenizeFrom_blanks {cs : List Char} (h : Text.AllBlank cs) (afterOperand : Bool) (position : Nat) :
    ∃ tokens, tokenizeFrom afterOperand position cs = .ok tokens := by
  have hgap := tokenizeFrom_gap h afterOperand position []
  rw [List.append_nil, tokenizeFrom] at hgap
  exact ⟨_, hgap⟩

theorem toList_render (body : List Token) (last : Nat) :
    (Token.render (body ++ [.eof last])).toList = writtenAll body := by
  rw [Token.render, String.toList_ofList, List.flatMap_append]
  exact List.append_nil _

/-- Tokens that are read again are so as a whole text. -/
theorem Rereads.exists_tokens {body : List Token} {R : List Token → Prop} (h : Rereads false true Follows body R)
    (hspelled : ∀ t ∈ body, t.Spelled) (last : Nat) : ∃ out next, R out ∧
      tokenize (Token.render (body ++ [.eof last])) = .ok (out ++ [.eof next]) := by
  obtain ⟨out, next, hout, hread⟩ := h.accepted hspelled 0 [] follows_nil
  have hend : tokenizeFrom true next [] = .ok [.eof next] := by rw [tokenizeFrom]
  refine ⟨out, next, hout, ?_⟩
  rw [tokenize, toList_render, ← List.append_nil (writtenAll body), hread, hend]
  rfl

/-- A text is accepted if it is blank or a formula that parses. -/
theorem check_eq_ok_iff {text : String} :
    check (some text) = .ok () ↔ Text.isBlankText text = true ∨ ∃ e, parseFormula text = .ok e := by
  have hblank : isBlankFormula (some text) = Text.isBlankText text := rfl
  rw [check, hblank]
  cases Text.isBlankText text with
  | true => simp
  | false => cases parseFormula text <;> simp [Except.map]

/-- The text that a formula is expanded to is accepted exactly if all tokens of the expansion are spelled: no
computed number is infinite or undefined, and each name of a function is a word in upper case too. -/
theorem check_expanded_iff {ctx : Context} {formula text : String} (h : expandFormula ctx formula = .ok text) :
    ∃ tokens, (tokenize formula).bind (expandTokens ctx) = .ok tokens ∧ Token.render tokens = text ∧
      (check (some text) = .ok () ↔ ∀ t ∈ tokens, t.Spelled) := by
  obtain ⟨tokens, e, out, htokens, hparse, hout, rfl⟩ := expandFormula_eq_ok h
  have hshaped : AllShaped out :=
    forall_mem_expandTokens shaped_literalToken hout (shaped_of_mem_tokenizeFrom htokens)
  obtain ⟨body, last, e', rfl, hd⟩ := exists_phrase_of_expandTokens htokens hparse hout
  have hrereads := hd.rereads (List.forall_mem_append.mp hshaped).1
  refine ⟨body ++ [.eof last], by rw [htokens]; exact hout, rfl, ?_⟩
  have hspelled : (∀ t ∈ body ++ [Token.eof last], t.Spelled) ↔ ∀ t ∈ body, t.Spelled := by
    have heof : (Token.eof last).Spelled := Token.spelled_of_kind (by simp [Token.eof]) (by simp [Token.eof])
    simp only [List.forall_mem_append, List.forall_mem_singleton, heof, and_true]
  rw [hspelled, check_eq_ok_iff]
  constructor
  · intro haccepted
    by_contra hno
    obtain ⟨err, herr⟩ := hrereads.refused hno 0 [] follows_nil
    rw [List.append_nil] at herr
    rcases haccepted with hblank | ⟨e, he⟩
    · rw [Text.isBlankText, toList_render, List.all_eq_true] at hblank
      obtain ⟨blanks, hblanks⟩ := tokenizeFrom_blanks hblank false 0
      rw [herr] at hblanks
      cases hblanks
    · rw [parseFormula, tokenize, toList_render, herr] at he
      cases he
  · intro hall
    obtain ⟨again, next, ⟨e, he⟩, hread⟩ := hrereads.exists_tokens hall last
    exact .inr ⟨e, parseFormula_eq_ok_iff.mpr ⟨again, next, hread, he⟩⟩

/-- A negative value behind an operator, one behind a minus, and a quote in a text. -/
theorem check_expanded_iff_signs :
    let formula := "1-SUM(-2)*Foo(-MAX(0.5,2),\"a\"\"b\")"
    let text := "1--2*FOO(-2,\"a\"\"b\")"
    expandFormula emptyForm formula = .ok text ∧
      ∃ tokens, (tokenize formula).bind (expandTokens emptyForm) = .ok tokens ∧ Token.render tokens = text ∧
        (check (some text) = .ok () ↔ ∀ t ∈ tokens, t.Spelled) ∧ check (some text) = .ok () := by
  intro formula text
  have hexpand : expandFormula emptyForm formula = .ok text := by decide +kernel
  obtain ⟨tokens, htokens, hrender, hiff⟩ := check_expanded_iff hexpand
  exact ⟨hexpand, tokens, htokens, hrender, hiff, by decide +kernel⟩

/-- A form with a number whose double is not finite. -/
def hugeForm : Context := ⟨.ofList [("a", Value.number (.ofDecimal false ⟨1, 308⟩))], ∅, .ofMillis 0⟩

/-- A sum that is infinite, and a name whose upper case has a character that names have not, expand to texts that
are refused. -/
theorem not_formula_of_expanded :
    expandFormula hugeForm "SUM([a],[a])" = .ok "inf" ∧ check (some "inf") ≠ .ok () ∧
      expandFormula emptyForm "\u0390(1)" = .ok "\u0399\u0308\u0301(1)" ∧
      check (some "\u0399\u0308\u0301(1)") ≠ .ok () := by
  refine ⟨?_, ?_, ?_, ?_⟩ <;> decide +kernel

end FormRules.Formula
