import FormRules.Proofs.Formula.Parsing

/-!
# What the parser refuses, and how

A list of tokens that is no phrase of the grammar is refused with a syntax error, as the parsers have no other
errors, and the error is at the position of one of the tokens. This is proved of each parser together with what it
leaves, which are tokens that were there (`Located`): if no token stands behind a position, then no error does
(`staysWithin_parseTokens`). Main statement: `parseTokens` gives the tree of the phrases inside which no more than
255 levels open, each tier of them being chains of the tier below, and a syntax error for all other lists
(`parseTokens_exact`).
-/

namespace FormRules.Formula

open FormRules.Formula.Parser

/-- A syntax error at a position of at most `n`. -/
def Error.Within (n : Nat) (e : Error) : Prop := ∃ position fault, e = .malformed position fault ∧ position ≤ n

/-- The outcome is something that `post` holds of, or a syntax error at a position of at most `n`. -/
inductive StaysWithin {α : Type} (n : Nat) (post : α → Prop) : Outcome α → Prop
  | ok {a : α} (h : post a) : StaysWithin n post (.ok a)
  | error {e : Error} (h : e.Within n) : StaysWithin n post (.error e)

/-- None of the tokens stands behind the position `n`. -/
def StandWithin (n : Nat) (tokens : List Token) : Prop := ∀ t ∈ tokens, t.position ≤ n

theorem exists_standWithin (tokens : List Token) : ∃ n, StandWithin n tokens := by
  induction tokens with
  | nil => exact ⟨0, nofun⟩
  | cons t tokens ih =>
    obtain ⟨n, hn⟩ := ih
    refine ⟨max t.position n, List.forall_mem_cons.mpr ⟨Nat.le_max_left _ _, fun u hu => ?_⟩⟩
    exact Nat.le_trans (hn u hu) (Nat.le_max_right _ _)

section

variable {α β : Type} {n : Nat} {post : α → Prop} {post' : β → Prop}

theorem staysWithin_malformed {position : Nat} (fault : Fault) (h : position ≤ n) :
    StaysWithin n post (.error (.malformed position fault)) := .error ⟨position, fault, rfl, h⟩

theorem StaysWithin.mono {m : Nat} {outcome : Outcome α} (h : StaysWithin m post outcome) (hle : m ≤ n) :
    StaysWithin n post outcome := by
  cases h with
  | ok h => exact .ok h
  | error h =>
    obtain ⟨position, fault, rfl, hposition⟩ := h
    exact staysWithin_malformed fault (Nat.le_trans hposition hle)

theorem StaysWithin.bind {outcome : Outcome α} {next : α → Outcome β} (h : StaysWithin n post outcome)
    (hnext : ∀ a, post a → StaysWithin n post' (next a)) : StaysWithin n post' (outcome >>= next) := by
  cases h with
  | ok h => exact hnext _ h
  | error h => exact .error h

theorem StaysWithin.ite {c : Prop} [Decidable c] {outcome outcome' : Outcome α} (h : StaysWithin n post outcome)
    (h' : StaysWithin n post outcome') : StaysWithin n post (if c then outcome else outcome') := by
  split
  · exact h
  · exact h'

theorem StaysWithin.within {outcome : Outcome α} {e : Error} (h : StaysWithin n post outcome)
    (he : outcome = .error e) : e.Within n := by
  rw [he] at h
  cases h with
  | error h => exact h

theorem StaysWithin.of_eq_ok {outcome : Outcome α} {a : α} (h : StaysWithin n post outcome) (ha : outcome = .ok a) :
    post a := by
  rw [ha] at h
  cases h with
  | ok h => exact h

end

section

variable {n : Nat}

/-- On tokens within `n` the parser leaves tokens within `n`, or refuses them with a syntax error there. -/
def Located {α : Type} (n : Nat) (p : Parser α) : Prop :=
  ∀ tokens, StandWithin n tokens → StaysWithin n (fun result => StandWithin n result.2) (p tokens)

theorem staysWithin_missing {α : Type} {post : α → Prop} (expectation : Expectation) {tokens : List Token}
    (h : StandWithin n tokens) : StaysWithin n post (missing expectation tokens) := by
  unfold missing
  split
  · exact staysWithin_malformed _ (Nat.zero_le n)
  · exact staysWithin_malformed _ (h _ List.mem_cons_self)

theorem staysWithin_expect (kind : TokenKind) (expectation : Expectation) {tokens : List Token}
    (h : StandWithin n tokens) : StaysWithin n (StandWithin n) (expect kind expectation tokens) := by
  unfold expect
  split
  · split
    · exact .ok (List.forall_mem_cons.mp h).2
    · exact staysWithin_missing _ h
  · exact staysWithin_missing _ h

theorem located_tooDeep {α : Type} : Located n (tooDeep : Parser α) := by
  intro tokens h
  cases tokens with
  | nil => exact staysWithin_malformed _ (Nat.zero_le n)
  | cons t tokens => exact staysWithin_malformed _ (h t List.mem_cons_self)

variable {joint : Joint} {operand expression : Parser Expr}

theorem staysWithin_chainFrom (h : Located n operand) (left : Expr) {tokens : List Token}
    (htokens : StandWithin n tokens) :
    StaysWithin n (fun result => StandWithin n result.2) (chainFrom joint operand left tokens) := by
  fun_induction chainFrom joint operand left tokens with
  | case1 => exact .ok htokens
  | case2 => exact .ok htokens
  | case3 _ _ rest _ _ _ hop => exact .error ((h rest (List.forall_mem_cons.mp htokens).2).within hop)
  | case4 _ _ rest _ _ _ after hop _ ih =>
    have hafter : StandWithin n after := (h rest (List.forall_mem_cons.mp htokens).2).of_eq_ok hop
    exact ih hafter
  | case5 _ _ rest _ _ _ after hop =>
    have hafter : StandWithin n after := (h rest (List.forall_mem_cons.mp htokens).2).of_eq_ok hop
    exact .ok hafter

theorem Located.chain (h : Located n operand) : Located n (chain joint operand) := by
  intro tokens htokens
  have hoperand := h tokens htokens
  unfold Parser.chain
  split
  · next hop => exact .error (hoperand.within hop)
  · next hop => exact staysWithin_chainFrom h _ (hoperand.of_eq_ok hop)

theorem Located.argument (h : Located n expression) : Located n (argument expression) := by
  intro tokens htokens
  unfold Parser.argument
  split
  · split
    · exact staysWithin_malformed _ (htokens _ List.mem_cons_self)
    · exact h _ htokens
  · exact h _ htokens

theorem staysWithin_argumentsFrom (h : Located n expression) (args : List Expr) {tokens : List Token}
    (htokens : StandWithin n tokens) :
    StaysWithin n (fun result => StandWithin n result.2) (argumentsFrom expression args tokens) := by
  fun_induction argumentsFrom expression args tokens with
  | case1 => exact staysWithin_missing _ htokens
  | case2 _ _ rest _ _ harg => exact .error ((h.argument rest (List.forall_mem_cons.mp htokens).2).within harg)
  | case3 _ _ rest _ _ after harg _ ih =>
    have hafter : StandWithin n after := (h.argument rest (List.forall_mem_cons.mp htokens).2).of_eq_ok harg
    exact ih hafter
  | case4 _ _ rest _ _ _ harg =>
    exact staysWithin_missing _ ((h.argument rest (List.forall_mem_cons.mp htokens).2).of_eq_ok harg)
  | case5 => exact .ok (List.forall_mem_cons.mp htokens).2
  | case6 => exact staysWithin_missing _ htokens

theorem Located.arguments (h : Located n expression) (name : String) : Located n (arguments name expression) := by
  intro tokens htokens
  have hopen := staysWithin_expect .openParen (.callParen name) htokens
  unfold Parser.arguments
  split
  · next herror => exact .error (hopen.within herror)
  · next inner hinner =>
    have hwithin : StandWithin n inner := hopen.of_eq_ok hinner
    split
    · exact staysWithin_missing _ hwithin
    · split
      · exact .ok (List.forall_mem_cons.mp hwithin).2
      · have hfirst := h.argument _ hwithin
        split
        · next herror => exact .error (hfirst.within herror)
        · next harg => exact staysWithin_argumentsFrom h _ (hfirst.of_eq_ok harg)

/-- The atoms, given what stands one level deeper. -/
theorem located_atom_of {levels : Nat} (h : ∀ tier, Located n (deeper tier levels)) : Located n (atom levels) := by
  intro tokens htokens
  cases tokens with
  | nil =>
    rw [atom.eq_def]
    exact staysWithin_missing _ htokens
  | cons token rest =>
    obtain ⟨htoken, hrest⟩ := List.forall_mem_cons.mp htokens
    rw [atom_cons]
    split
    · exact .ok hrest
    · exact .ok hrest
    · split
      · exact .ok hrest
      · exact staysWithin_malformed _ htoken
    · exact .ok hrest
    · exact ((h .comparison).arguments token.text rest hrest).bind fun _ hafter => .ok hafter
    · refine (h .comparison rest hrest).bind fun _ hafter => ?_
      exact (staysWithin_expect _ _ hafter).bind fun _ hend => .ok hend
    · split
      · exact (h .atom rest hrest).bind fun _ hafter => .ok hafter
      · exact staysWithin_missing _ htokens
    · exact staysWithin_missing _ htokens

/-- The parser of a tier, given that of the atoms. -/
theorem located_tier_of {levels : Nat} (h : Located n (atom levels)) (tier : Tier) :
    Located n (tier.parser levels) := by
  have hproduct : Located n (Tier.product.parser levels) := h.chain
  have hsum : Located n (Tier.sum.parser levels) := hproduct.chain
  cases tier with
  | atom => exact h
  | product => exact hproduct
  | sum => exact hsum
  | comparison => exact hsum.chain

theorem located_tier (tier : Tier) (levels : Nat) : Located n (tier.parser levels) := by
  induction levels generalizing tier with
  | zero =>
    have hdeeper : ∀ tier, Located n (deeper tier 0) := fun _ => located_tooDeep
    exact located_tier_of (located_atom_of hdeeper) tier
  | succ levels ih =>
    have hdeeper : ∀ tier, Located n (deeper tier (levels + 1)) := ih
    exact located_tier_of (located_atom_of hdeeper) tier

theorem standWithin_terminated {tokens : List Token} (h : StandWithin n tokens) :
    StandWithin n (terminated tokens) := by
  have hbody : ∀ t ∈ tokens.takeWhile (·.kind ≠ .eof), t.position ≤ n :=
    fun t ht => h t ((List.takeWhile_sublist _).subset ht)
  unfold terminated
  dsimp only
  split
  · next last rest hlast =>
    refine List.forall_mem_append.mpr ⟨hbody, List.forall_mem_singleton.mpr (h last ?_)⟩
    exact (List.drop_sublist _ tokens).subset (hlast ▸ List.mem_cons_self)
  · refine List.forall_mem_append.mpr ⟨hbody, List.forall_mem_singleton.mpr ?_⟩
    cases hlast : tokens.getLast? with
    | none => exact Nat.zero_le n
    | some last => exact h last (List.mem_of_getLast? hlast)

/-- Where no token stands behind a position, no error of the parser does. -/
theorem staysWithin_parseTokens {tokens : List Token} (h : StandWithin n tokens) :
    StaysWithin n (fun _ => True) (parseTokens tokens) := by
  have hterminated := standWithin_terminated h
  unfold parseTokens
  split
  · next last hlast =>
    rw [hlast] at hterminated
    exact staysWithin_malformed _ (hterminated last List.mem_cons_self)
  · have hexpr := located_tier .comparison (maxLevels - 1) (terminated tokens) hterminated
    split
    · next herror => exact .error (hexpr.within herror)
    · exact staysWithin_malformed _ (Nat.zero_le n)
    · next token rest hvalue =>
      have hrest : StandWithin n (token :: rest) := hexpr.of_eq_ok hvalue
      split
      · exact .ok trivial
      · exact staysWithin_malformed _ (hrest token List.mem_cons_self)

end

theorem onlySyntax_parseTokens (tokens : List Token) (e : Error) (h : parseTokens tokens = .error e) :
    ∃ position fault, e = .malformed position fault := by
  obtain ⟨n, hn⟩ := exists_standWithin tokens
  obtain ⟨position, fault, he, -⟩ := (staysWithin_parseTokens hn).within h
  exact ⟨position, fault, he⟩

/-- The tokens in front of the end of a formula parse to a tree exactly if they are a phrase with that tree, in
which no more than 255 parentheses, arguments and minus signs enclose any point; if they are no such phrase, the
result is a syntax error. The phrases of each tier are the chains of phrases of the tier below, joined from the left
by the operators of the tier. -/
theorem parseTokens_exact (tokens : List Token) :
    (∀ e, parseTokens tokens = .ok e ↔ Derives .comparison 255 (formulaBody tokens) e) ∧
    ((∃ e, Derives .comparison 255 (formulaBody tokens) e) ∨
      ∃ position fault, parseTokens tokens = .error (.malformed position fault)) ∧
    ∀ tier levels phrase e, Derives tier levels phrase e ↔ IsChain tier (Derives tier.below levels) phrase e := by
  refine ⟨fun _ => parseTokens_eq_ok_iff, ?_, fun _ _ _ _ => Derives.iff_isChain⟩
  cases hparse : parseTokens tokens with
  | ok e => exact .inl ⟨e, parseTokens_eq_ok_iff.mp hparse⟩
  | error err =>
    obtain ⟨position, fault, rfl⟩ := onlySyntax_parseTokens tokens err hparse
    exact .inr ⟨position, fault, rfl⟩

end FormRules.Formula
