import FormRules.Proofs.Formula.Checked
import FormRules.Proofs.Formula.Expansion

/-!
# Expansion with its tokens by place

Expansion finds the calls, their closing parentheses and their arguments in a list of tokens by places and counters of
open parentheses. `expandChecked` does the same as a checked computation: it is stuck where a slice is not within the
tokens, a counter would go below zero, the end is not reached in as many steps as there are tokens, or more than
`maxLevels` calls lie in each other. In a formula that parses each call to be expanded has its arguments between its
parentheses, phrases in which fewer levels open (`Derives.covers`). So neither evaluation nor expansion is ever stuck
(`never_stuck`).
-/

namespace FormRules.Formula

namespace Expansion

open Checked (stuck itemAt bind_ok bind_of)

/-! ### Places -/

/-- The items from the place `start` up to the place `stop`. -/
def slice {α : Type} (items : List α) (start stop : Nat) : Checked (List α) :=
  if start ≤ stop ∧ stop ≤ items.length then return (items.take stop).drop start else stuck

/-- One open parenthesis less. -/
def decrement : (depth : Nat) → Checked Nat
  | 0 => stuck
  | depth + 1 => return depth

/-- The place from `place` on where the last of `depth` open parentheses is closed; the first one opens at `opening`. -/
def closingPlace (opening depth place : Nat) : List Token → Checked Nat
  | [] => .of (.error (.malformed opening .unmatchedParen))
  | token :: rest =>
    match token.kind with
    | .openParen => closingPlace opening (depth + 1) (place + 1) rest
    | .closeParen => do
      let depth ← decrement depth
      if depth = 0 then return place else closingPlace opening depth (place + 1) rest
    | _ => closingPlace opening depth (place + 1) rest

/-- The place of the parenthesis that closes the one at `place`. -/
def matchingParen (tokens : List Token) (place : Nat) : Checked Nat := do
  let opening ← itemAt tokens place
  closingPlace opening.position 0 place (tokens.drop place)

/-- The arguments among the tokens `inner` of a call from the place `start` on, where the current one starts. The tokens
from `place` on are still to be read, and `depth` inner parentheses are open. -/
def argumentsFromPlace (inner : List Token) (close depth start place : Nat) :
    List Token → Checked (List (List Token))
  | [] =>
    if start = inner.length then .of (.error (.malformed close .emptyArgument))
    else do
      let arg ← slice inner start inner.length
      return [arg]
  | token :: rest =>
    match token.kind with
    | .openParen => argumentsFromPlace inner close (depth + 1) start (place + 1) rest
    | .closeParen => do
      let depth ← decrement depth
      argumentsFromPlace inner close depth start (place + 1) rest
    | .comma =>
      if depth = 0 then
        if place = start then .of (.error (.malformed token.position .emptyArgument))
        else do
          let arg ← slice inner start place
          let args ← argumentsFromPlace inner close 0 (place + 1) (place + 1) rest
          return arg :: args
      else argumentsFromPlace inner close depth start (place + 1) rest
    | _ => argumentsFromPlace inner close depth start (place + 1) rest

/-- The arguments of a call, of which `inner` are the tokens between the parentheses. -/
def splitChecked (close : Nat) (inner : List Token) : Checked (List (List Token)) :=
  if inner.isEmpty then return [] else argumentsFromPlace inner close 0 0 0 inner

/-- The outcome of a computation as its result. -/
def attempt {α : Type} (m : Checked α) : Checked (Outcome α) := ExceptT.mk (m.run.map .ok)

/-- What the token at a place is expanded to with what belongs to it, and the place behind; `argument` gives the value
of an argument. -/
def expandAt (ctx : Context) (argument : List Token → Checked Value) (tokens : List Token) (place : Nat) :
    Checked (List Token × Nat) := do
  let token ← itemAt tokens place
  -- a name may be the last token: whether a parenthesis follows is asked without reading at a place
  match callee? token (tokens.drop (place + 1)) with
  | none => return ([token], place + 1)
  | some f =>
    let close ← matchingParen tokens (place + 1)
    let inner ← slice tokens (place + 2) close
    let closing ← itemAt tokens close
    let args ← splitChecked closing.position inner
    let outcome ← attempt do
      let values ← args.mapM argument
      Checked.of (f.checkArity values.length)
      ExceptT.mk (f.compute? ctx.now values)
    match outcome with
    | .ok value => return ([literalToken value token.position], close + 1)
    | .error (.failed _) => do
      let call ← slice tokens place (close + 1)
      return (call, close + 1)
    | .error e => .of (.error e)

/-- What the tokens from a place on are expanded to, in at most `steps` steps. -/
def expandFrom (ctx : Context) (argument : List Token → Checked Value) (tokens : List Token) :
    (steps : Nat) → (place : Nat) → Checked (List Token)
  | 0, place => if place < tokens.length then stuck else return []
  | steps + 1, place =>
    if place < tokens.length then do
      let (out, next) ← expandAt ctx argument tokens place
      let more ← expandFrom ctx argument tokens steps next
      return out ++ more
    else return []

/-- Replaces the expandable calls in a token list by their values, with calls in calls at most `levels` deep. -/
def expandChecked (ctx : Context) : (levels : Nat) → List Token → Checked (List Token)
  | 0, _ => stuck
  | levels + 1, tokens =>
    let argument (arg : List Token) : Checked Value := do
      let expanded ← expandChecked ctx levels arg
      let expr ← Checked.of (parseTokens (expanded ++ [.eof (expanded.getLast?.elim 0 (·.position))]))
      evaluateChecked ctx expr
    expandFrom ctx argument tokens tokens.length 0

theorem itemAt_append {α : Type} (before : List α) (item : α) (after : List α) :
    itemAt (before ++ item :: after) before.length = .of (.ok item) := by
  rw [itemAt, List.getElem?_append_right (Nat.le_refl _), Nat.sub_self]
  rfl

theorem drop_append_cons {α : Type} (before : List α) (item : α) (after : List α) :
    (before ++ item :: after).drop (before.length + 1) = after := by
  rw [List.drop_length_add_append, List.drop_one, List.tail_cons]

theorem slice_append {α : Type} (before middle after : List α) :
    slice (before ++ (middle ++ after)) before.length (before.length + middle.length) = .of (.ok middle) := by
  have hlength : (before ++ (middle ++ after)).length = before.length + middle.length + after.length := by
    rw [List.length_append, List.length_append, Nat.add_assoc]
  have htake : (before ++ (middle ++ after)).take (before.length + middle.length) = before ++ middle := by
    rw [← List.append_assoc, List.take_left' (List.length_append ..)]
  rw [slice, if_pos ⟨Nat.le_add_right _ _, hlength ▸ Nat.le_add_right _ _⟩, htake, List.drop_left]
  rfl

/-! ### The closing parenthesis -/

section

variable {token : Token} {rest : List Token} {opening depth place : Nat}

theorem closingPlace_open (h : token.kind = .openParen) :
    closingPlace opening depth place (token :: rest) = closingPlace opening (depth + 1) (place + 1) rest := by
  rw [closingPlace, h]

theorem closingPlace_close (h : token.kind = .closeParen) (hdepth : 0 < depth) :
    closingPlace opening (depth + 1) place (token :: rest) = closingPlace opening depth (place + 1) rest := by
  rw [closingPlace, h]
  exact if_neg (Nat.ne_of_gt hdepth)

theorem closingPlace_end (h : token.kind = .closeParen) :
    closingPlace opening 1 place (token :: rest) = .of (.ok place) := by
  rw [closingPlace, h]
  rfl

theorem closingPlace_other (ho : token.kind ≠ .openParen) (hc : token.kind ≠ .closeParen) :
    closingPlace opening depth place (token :: rest) = closingPlace opening depth (place + 1) rest := by
  rw [closingPlace]
  split
  · next h => exact absurd h ho
  · next h => exact absurd h hc
  · rfl

end

/-- Balanced tokens do not hold up the search for a parenthesis. -/
theorem closingPlace_append {commas : Bool} {tokens : List Token} (h : Balanced commas tokens) (opening : Nat)
    {depth : Nat} (hdepth : 0 < depth) (place : Nat) (tail : List Token) :
    closingPlace opening depth place (tokens ++ tail) =
      closingPlace opening depth (place + tokens.length) tail := by
  induction h generalizing depth place tail with
  | nil => rfl
  | token ho hc _ _ ih =>
    rw [List.cons_append, closingPlace_other ho hc, ih hdepth, List.length_cons, Nat.add_right_comm, Nat.add_assoc]
  | @parens _ _ _ inner rest ho hc _ _ ihi ih =>
    rw [List.cons_append, List.append_assoc, List.cons_append, closingPlace_open ho, ihi (Nat.succ_pos depth),
      closingPlace_close hc hdepth, ih hdepth]
    congr 1
    simp only [List.length_cons, List.length_append]
    omega

section

variable {front inner after : List Token} {name opening closing : Token}

theorem matchingParen_call {commas : Bool} (ho : opening.kind = .openParen) (hc : closing.kind = .closeParen)
    (h : Balanced commas inner) :
    matchingParen (front ++ name :: opening :: (inner ++ closing :: after)) (front.length + 1) =
      .of (.ok (front.length + 2 + inner.length)) := by
  have hplace : (front ++ [name]).length = front.length + 1 := by simp
  have htokens : front ++ name :: opening :: (inner ++ closing :: after) =
      front ++ [name] ++ opening :: (inner ++ closing :: after) := by simp
  rw [htokens, ← hplace, matchingParen, itemAt_append, List.drop_left, bind_ok, closingPlace_open ho,
    closingPlace_append h opening.position Nat.one_pos, closingPlace_end hc, hplace]

theorem slice_inner : slice (front ++ name :: opening :: (inner ++ closing :: after)) (front.length + 2)
    (front.length + 2 + inner.length) = .of (.ok inner) := by
  simpa using slice_append (front ++ [name, opening]) inner (closing :: after)

theorem itemAt_closing : itemAt (front ++ name :: opening :: (inner ++ closing :: after))
    (front.length + 2 + inner.length) = .of (.ok closing) := by
  have hplace : (front ++ name :: opening :: inner).length = front.length + 2 + inner.length := by
    simp only [List.length_append, List.length_cons]
    omega
  have hitem := itemAt_append (front ++ name :: opening :: inner) closing after
  rw [hplace] at hitem
  simpa using hitem

end

/-! ### The arguments -/

section

variable {inner rest : List Token} {token : Token} {close depth start place : Nat}

theorem argumentsFromPlace_open (h : token.kind = .openParen) :
    argumentsFromPlace inner close depth start place (token :: rest) =
      argumentsFromPlace inner close (depth + 1) start (place + 1) rest := by
  rw [argumentsFromPlace, h]

theorem argumentsFromPlace_close (h : token.kind = .closeParen) :
    argumentsFromPlace inner close (depth + 1) start place (token :: rest) =
      argumentsFromPlace inner close depth start (place + 1) rest := by
  rw [argumentsFromPlace, h]
  rfl

theorem argumentsFromPlace_comma (h : token.kind = .comma) :
    argumentsFromPlace inner close 0 start place (token :: rest) =
      if place = start then .of (.error (.malformed token.position .emptyArgument))
      else do
        let arg ← slice inner start place
        let args ← argumentsFromPlace inner close 0 (place + 1) (place + 1) rest
        return arg :: args := by
  rw [argumentsFromPlace, h]
  rfl

theorem argumentsFromPlace_other (ho : token.kind ≠ .openParen) (hc : token.kind ≠ .closeParen)
    (hcomma : token.kind = .comma → 0 < depth) :
    argumentsFromPlace inner close depth start place (token :: rest) =
      argumentsFromPlace inner close depth start (place + 1) rest := by
  rw [argumentsFromPlace]
  split
  · next h => exact absurd h ho
  · next h => exact absurd h hc
  · next h => exact if_neg (Nat.ne_of_gt (hcomma h))
  · rfl

end

/-- Balanced tokens in inner parentheses are part of the current argument. -/
theorem argumentsFromPlace_append {commas : Bool} {tokens : List Token} (h : Balanced commas tokens)
    (inner : List Token) (close : Nat) {depth : Nat} (hdepth : 0 < depth) (start place : Nat) (tail : List Token) :
    argumentsFromPlace inner close depth start place (tokens ++ tail) =
      argumentsFromPlace inner close depth start (place + tokens.length) tail := by
  induction h generalizing depth place tail with
  | nil => rfl
  | token ho hc _ _ ih =>
    rw [List.cons_append, argumentsFromPlace_other ho hc fun _ => hdepth, ih hdepth, List.length_cons,
      Nat.add_right_comm, Nat.add_assoc]
  | parens ho hc _ _ ihi ih =>
    rw [List.cons_append, List.append_assoc, List.cons_append, argumentsFromPlace_open ho, ihi (Nat.succ_pos depth),
      argumentsFromPlace_close hc, ih hdepth]
    congr 1
    simp only [List.length_cons, List.length_append]
    omega

/-- Where parentheses are balanced, slices find the arguments. The tokens of the arguments before are `done`, those of
the current one `current`. -/
theorem argumentsFromPlace_eq {commas : Bool} {tokens : List Token} (h : Balanced commas tokens) (close : Nat)
    (done current : List Token) :
    argumentsFromPlace (done ++ (current ++ tokens)) close 0 done.length (done.length + current.length) tokens =
      .of (argumentsFrom close 0 current tokens) := by
  induction h generalizing done current with
  | nil =>
    have hempty : done.length = (done ++ (current ++ [])).length ↔ current.isEmpty = true := by simp
    have hslice := slice_append done current []
    rw [argumentsFromPlace, argumentsFrom]
    simp only [hempty]
    split
    · rfl
    · rw [List.append_nil] at hslice ⊢
      rw [List.length_append, hslice]
      rfl
  | @token _ t rest ho hc _ _ ih =>
    by_cases hcomma : t.kind = .comma
    · have hempty : done.length + current.length = done.length ↔ current.isEmpty = true := by simp
      -- behind the comma the next argument starts, and what came before it is done
      have hnext : argumentsFromPlace (done ++ (current ++ t :: rest)) close 0 (done.length + current.length + 1)
          (done.length + current.length + 1) rest = .of (argumentsFrom close 0 [] rest) := by
        have hdone : (done ++ current ++ [t]).length = done.length + current.length + 1 := by
          rw [List.length_append, List.length_append, List.length_singleton]
        have hsame : done ++ current ++ [t] ++ ([] ++ rest) = done ++ (current ++ t :: rest) := by simp
        have hih := ih (done ++ current ++ [t]) []
        rwa [hdone, hsame] at hih
      have hsplit : argumentsFrom close 0 current (t :: rest) =
          if current.isEmpty then .error (.malformed t.position .emptyArgument)
          else (argumentsFrom close 0 [] rest) >>= fun args => return current :: args := by
        rw [argumentsFrom, if_pos ⟨hcomma, rfl⟩]
      rw [argumentsFromPlace_comma hcomma, hsplit]
      simp only [hempty]
      split
      · rfl
      · rw [slice_append]
        exact bind_of hnext fun _ _ => rfl
    · have hnone : t.kind = .comma → 0 < 0 := fun h => absurd h hcomma
      have hih := ih done (current ++ [t])
      rw [List.append_assoc, List.singleton_append, List.length_append, List.length_singleton, ← Nat.add_assoc] at hih
      rw [argumentsFromPlace_other ho hc hnone, argumentsFrom_other ho hc hnone, hih]
  | @parens _ opening closing inner rest ho hc hi _ _ ih =>
    have hih := ih done (current ++ opening :: (inner ++ [closing]))
    have hsame : current ++ opening :: (inner ++ [closing]) ++ rest =
        current ++ opening :: (inner ++ closing :: rest) := by simp
    have hplace : done.length + (current ++ opening :: (inner ++ [closing])).length =
        done.length + current.length + 1 + inner.length + 1 := by
      simp only [List.length_append, List.length_cons, List.length_nil]
      omega
    rw [hsame, hplace] at hih
    rw [argumentsFromPlace_open ho, argumentsFromPlace_append hi _ _ Nat.one_pos, argumentsFromPlace_close hc, hih,
      argumentsFrom_open ho, argumentsFrom_append hi fun _ => Nat.one_pos, argumentsFrom_close hc]
    simp

theorem splitChecked_eq {commas : Bool} {inner : List Token} (h : Balanced commas inner) (close : Nat) :
    splitChecked close inner = .of (splitArguments close inner) := by
  rw [splitChecked, splitArguments]
  split
  · rfl
  · exact argumentsFromPlace_eq h close [] []

/-! ### Calls and what they enclose -/

/-- A phrase in which fewer than `levels` levels open. -/
def Shallower (levels : Nat) (tokens : List Token) : Prop :=
  ∃ fewer e, fewer < levels ∧ Derives .comparison fewer tokens e

/-- The tokens between two parentheses are the arguments of a call, each a phrase in which fewer than `levels` levels
open. -/
structure Encloses (levels : Nat) (opening : Token) (inner : List Token) (closing : Token)
    (args : List (List Token)) : Prop where
  opens : opening.kind = .openParen
  closes : closing.kind = .closeParen
  balanced : Balanced true inner
  split : splitArguments closing.position inner = .ok args
  shallower : ∀ arg ∈ args, Shallower levels arg

/-- Behind the name of a call stand its arguments. -/
def HasArguments (levels : Nat) (rest : List Token) : Prop :=
  ∃ opening inner closing after args, rest = opening :: (inner ++ closing :: after) ∧
    Encloses levels opening inner closing args

/-- Each call to be expanded has its arguments. -/
def Calls (levels : Nat) : List Token → Prop
  | [] => True
  | token :: rest => ((callee? token rest).isSome → HasArguments levels rest) ∧ Calls levels rest

theorem Calls.of_append {levels : Nat} {front rest : List Token} (h : Calls levels (front ++ rest)) :
    Calls levels rest := by
  induction front with
  | nil => exact h
  | cons _ _ ih => exact ih h.2

/-- In front of tokens whose calls have their arguments, so have those of `part`. -/
def Covers (levels : Nat) (part : List Token) : Prop := ∀ tail, Calls levels tail → Calls levels (part ++ tail)

section

variable {levels : Nat} {left right : List Token} {token : Token}

theorem Covers.append (hl : Covers levels left) (hr : Covers levels right) : Covers levels (left ++ right) := by
  intro tail htail
  rw [List.append_assoc]
  exact hl _ (hr _ htail)

theorem covers_single (h : token.kind ≠ .function) : Covers levels [token] := fun tail htail =>
  ⟨fun hcall => by simp [inert_of_kind h tail] at hcall, htail⟩

theorem covers_written {rest : List Argument} (hcomma : ∀ a ∈ rest, a.comma.kind = .comma)
    (h : ∀ a ∈ rest, Covers levels a.tokens) : Covers levels (rest.flatMap Argument.written) := by
  induction rest with
  | nil => exact fun _ htail => htail
  | cons a rest ih =>
    have hkind : a.comma.kind ≠ .function := by simp [hcomma a List.mem_cons_self]
    have hrest := ih (fun b hb => hcomma b (List.mem_cons_of_mem a hb)) fun b hb => h b (List.mem_cons_of_mem a hb)
    exact ((covers_single hkind).append (h a List.mem_cons_self)).append hrest

theorem covers_call {name opening closing : Token} {inner : List Token} {args : List (List Token)}
    (h : Encloses levels opening inner closing args) (hinner : Covers levels inner) :
    Covers levels (name :: opening :: (inner ++ [closing])) := by
  intro tail htail
  have hopening : Covers levels [opening] := covers_single (by simp [h.opens])
  have hclosing : Covers levels [closing] := covers_single (by simp [h.closes])
  have hrest : Calls levels ([opening] ++ (inner ++ [closing]) ++ tail) :=
    hopening.append (hinner.append hclosing) tail htail
  have hassoc : opening :: (inner ++ [closing]) ++ tail = opening :: (inner ++ closing :: tail) := by simp
  exact ⟨fun _ => ⟨opening, inner, closing, tail, args, hassoc, h⟩, hrest⟩

end

end Expansion

open Expansion

/-- The calls of a phrase have their arguments, phrases in which fewer levels open. -/
theorem Derives.covers {tier : Tier} {levels most : Nat} {tokens : List Token} {e : Expr}
    (h : Derives tier levels tokens e) (hmost : levels ≤ most) : Covers most tokens := by
  induction h with
  | field hk => exact covers_single (by simp [hk])
  | text hk => exact covers_single (by simp [hk])
  | number hk _ => exact covers_single (by simp [hk])
  | boolean hk => exact covers_single (by simp [hk])
  | emptyCall _ ho hc => exact covers_call ⟨ho, hc, .nil, rfl, nofun⟩ fun _ htail => htail
  | @call levels _ _ closing _ e rest _ ho hc hf hcomma hr ihf ihr =>
    obtain ⟨hinner, hsplit⟩ := hf.arguments_found hcomma hr closing.position
    refine covers_call ⟨ho, hc, hinner, hsplit, fun arg harg => ?_⟩ ?_
    · rcases List.mem_cons.mp harg with rfl | harg
      · exact ⟨levels, e, hmost, hf⟩
      · obtain ⟨a, ha, rfl⟩ := List.mem_map.mp harg
        exact ⟨levels, a.tree, hmost, hr a ha⟩
    · exact (ihf (by omega)).append (covers_written hcomma fun a ha => ihr a ha (by omega))
  | @parens _ opening closing _ _ ho hc _ ih =>
    have hopening : Covers most [opening] := covers_single (by simp [ho])
    have hclosing : Covers most [closing] := covers_single (by simp [hc])
    exact hopening.append ((ih (by omega)).append hclosing)
  | @minus _ token _ _ hk _ _ ih =>
    have htoken : Covers most [token] := covers_single (by simp [hk])
    exact htoken.append (ih (by omega))
  | single _ _ ih => exact ih hmost
  | @joined _ _ _ _ op _ _ _ _ hj _ ihl ihr =>
    have hop : Covers most [op] := covers_single (by simp [(Tier.joint_cases hj).1])
    exact (ihl hmost).append (hop.append (ihr hmost))

theorem not_isLazy {f : Builtin} (h : f.isExpandable = true) : f.isLazy = false := by
  cases f <;> first | rfl | cases h

theorem callee?_eq_some {token : Token} {rest : List Token} {f : Builtin} (h : callee? token rest = some f) :
    token.kind = .function ∧ Builtin.ofName? token.text = some f ∧ f.isExpandable = true := by
  unfold callee? at h
  split at h
  · next hcall => exact ⟨hcall.1, Option.filter_eq_some_iff.mp h⟩
  · cases h

namespace Expansion

open Checked (stuck itemAt bind_ok bind_of)

/-! ### Expansion by places -/

section

variable {ctx : Context} {levels : Nat} {argument : List Token → Checked Value}
  (hargument : ∀ {arg}, Shallower levels arg → argument arg = .of ((expandTokens ctx arg).bind (evaluateTokens ctx)))

include hargument

theorem mapM_argument {args : List (List Token)} (h : ∀ arg ∈ args, Shallower levels arg) :
    args.mapM argument = .of (evaluateArguments ctx args) := by
  induction args with
  | nil =>
    rw [evaluateArguments]
    rfl
  | cons arg args ih =>
    rw [List.mapM_cons, evaluateArguments_cons]
    refine bind_of (hargument (h arg List.mem_cons_self)) fun value _ => ?_
    rw [ih fun a ha => h a (List.mem_cons_of_mem arg ha)]
    cases evaluateArguments ctx args with
    | error e => rfl
    | ok values => rfl

/-- Behind the check of their number, the function of a call that is to be expanded finds all its arguments. -/
theorem attempt_call {f : Builtin} {args : List (List Token)} (hlazy : f.isLazy = false)
    (hargs : ∀ arg ∈ args, Shallower levels arg) :
    (attempt do
      let values ← args.mapM argument
      Checked.of (f.checkArity values.length)
      ExceptT.mk (f.compute? ctx.now values)) = .of (.ok ((evaluateArguments ctx args).bind (applyCall ctx f))) := by
  suffices h : (do
      let values ← args.mapM argument
      Checked.of (f.checkArity values.length)
      ExceptT.mk (f.compute? ctx.now values)) = Checked.of ((evaluateArguments ctx args).bind (applyCall ctx f)) by
    rw [h]
    rfl
  refine bind_of (mapM_argument hargument hargs) fun values _ => bind_of rfl fun _ harity => ?_
  rw [compute?_eq_apply hlazy ctx.now (minArgs_le_of_checkArity harity)]
  rfl

/-- A call is expanded by its places as it is by its parts. -/
theorem expandAt_call {f : Builtin} {inner : List Token} {name opening closing : Token} {args : List (List Token)}
    (front after : List Token) (hf : callee? name (opening :: (inner ++ closing :: after)) = some f)
    (hlazy : f.isLazy = false) (h : Encloses levels opening inner closing args) :
    expandAt ctx argument (front ++ name :: opening :: (inner ++ closing :: after)) front.length =
      .of ((expandedCall name (name :: opening :: (inner ++ [closing]))
        ((evaluateArguments ctx args).bind (applyCall ctx f))).map
          fun out => (out, (front ++ name :: opening :: (inner ++ [closing])).length)) := by
  have hnext : (front ++ name :: opening :: (inner ++ [closing])).length = front.length + 2 + inner.length + 1 := by
    simp only [List.length_append, List.length_cons, List.length_nil]
    omega
  have hcall : slice (front ++ name :: opening :: (inner ++ closing :: after)) front.length
      (front.length + 2 + inner.length + 1) = .of (.ok (name :: opening :: (inner ++ [closing]))) := by
    have hslice := slice_append front (name :: opening :: (inner ++ [closing])) after
    rw [← List.length_append, hnext] at hslice
    simpa using hslice
  simp only [expandAt, itemAt_append, drop_append_cons, hf, slice_inner, itemAt_closing,
    matchingParen_call h.opens h.closes h.balanced, splitChecked_eq h.balanced, h.split, bind_ok]
  rw [attempt_call hargument hlazy h.shallower, bind_ok, hnext]
  cases (evaluateArguments ctx args).bind (applyCall ctx f) with
  | ok value => rfl
  | error e =>
    cases e with
    | failed failure =>
      simp only [hcall, bind_ok]
      rfl
    | _ => rfl

/-- A step expands what belongs to the token at its place, and leaves tokens whose calls have their arguments. -/
theorem expandAt_eq (front : List Token) {token : Token} {rest : List Token} (h : Calls levels (token :: rest)) :
    ∃ (part after : List Token) (outcome : Outcome (List Token)),
      token :: rest = part ++ after ∧ part ≠ [] ∧ Calls levels after ∧
      expandAt ctx argument (front ++ token :: rest) front.length =
        .of (outcome.map fun out => (out, (front ++ part).length)) ∧
      expandTokens ctx (token :: rest) = outcome.bind fun out => (expandTokens ctx after).map (out ++ ·) := by
  cases hcallee : callee? token rest with
  | none =>
    refine ⟨[token], rest, .ok [token], rfl, List.cons_ne_nil _ _, h.2, ?_, expandTokens_cons hcallee⟩
    simp only [expandAt, itemAt_append, bind_ok, drop_append_cons, hcallee, List.length_append]
    rfl
  | some f =>
    obtain ⟨opening, inner, closing, after, args, rfl, hargs⟩ := h.1 (by simp [hcallee])
    obtain ⟨hname, hf, hexpandable⟩ := callee?_eq_some hcallee
    have htokens : token :: opening :: (inner ++ closing :: after) =
        token :: opening :: (inner ++ [closing]) ++ after := by simp
    have hafter : Calls levels after := (htokens ▸ h).of_append
    have hstep := expandAt_call hargument front after hcallee (not_isLazy hexpandable) hargs
    have hsplits : Splits ctx _ _ :=
      splits_expandable hname hargs.opens hargs.closes hf hexpandable hargs.balanced hargs.split
    have hexpand := hsplits after
    rw [← htokens] at hexpand
    exact ⟨_, after, _, htokens, List.cons_ne_nil _ _, hafter, hstep, hexpand⟩

/-- Steps from place to place expand tokens whose calls have their arguments, one step for each token at most. -/
theorem expandFrom_eq {rest : List Token} {steps : Nat} (front : List Token) (h : Calls levels rest)
    (hsteps : rest.length ≤ steps) :
    expandFrom ctx argument (front ++ rest) steps front.length = .of (expandTokens ctx rest) := by
  induction steps generalizing front rest with
  | zero =>
    rw [List.length_eq_zero_iff.mp (Nat.le_zero.mp hsteps), List.append_nil, expandFrom, expandTokens_nil,
      if_neg (Nat.lt_irrefl _)]
    rfl
  | succ steps ih =>
    cases rest with
    | nil =>
      rw [List.append_nil, expandFrom, expandTokens_nil, if_neg (Nat.lt_irrefl _)]
      rfl
    | cons token rest =>
      obtain ⟨part, after, outcome, htokens, hpart, hafter, hstep, hexpand⟩ := expandAt_eq hargument front h
      have hplace : front.length < (front ++ token :: rest).length := by simp
      -- a step takes a token at least, so one step less is enough for those it leaves
      have hfewer : after.length ≤ steps := by
        have hlength := congrArg List.length htokens
        have hpos := List.length_pos_iff.mpr hpart
        rw [List.length_append] at hlength
        omega
      have hmore := ih (front ++ part) hafter hfewer
      rw [List.append_assoc, ← htokens] at hmore
      rw [expandFrom, if_pos hplace, hstep, hexpand]
      cases outcome with
      | error e => rfl
      | ok out => exact bind_of hmore fun _ _ => rfl

end

/-- If expansion one call deeper finds the places in each argument, expansion finds them. -/
theorem expandChecked_succ {ctx : Context} {levels : Nat} {tokens : List Token}
    (hargs : ∀ {arg}, Shallower levels arg → expandChecked ctx levels arg = .of (expandTokens ctx arg))
    (h : Calls levels tokens) : expandChecked ctx (levels + 1) tokens = .of (expandTokens ctx tokens) := by
  refine expandFrom_eq (fun harg => ?_) [] h (Nat.le_refl _)
  exact bind_of (hargs harg) fun _ _ => bind_of rfl fun expr _ => evaluateChecked_eq expr

/-- Expansion by places is never stuck on tokens whose calls have their arguments. -/
theorem expandChecked_eq {ctx : Context} {levels : Nat} {tokens : List Token} (h : Calls levels tokens) :
    expandChecked ctx (levels + 1) tokens = .of (expandTokens ctx tokens) := by
  induction levels generalizing tokens with
  | zero =>
    refine expandChecked_succ ?_ h
    rintro arg ⟨fewer, e, hfewer, -⟩
    exact absurd hfewer (Nat.not_lt_zero fewer)
  | succ levels ih =>
    -- fewer levels open in the arguments, so one level less is enough for their calls
    refine expandChecked_succ ?_ h
    rintro arg ⟨fewer, e, hfewer, hd⟩
    have hcovers : Covers levels arg := hd.covers (Nat.le_of_lt_succ hfewer)
    exact ih (by simpa using hcovers [] trivial)

/-- Behind the name of each call to be expanded stands a parenthesis that is closed, with balanced tokens between. -/
def ClosesCalls (tokens : List Token) : Prop :=
  ∀ place name f, tokens[place]? = some name → callee? name (tokens.drop (place + 1)) = some f →
    ∃ close closing inner, matchingParen tokens (place + 1) = .of (.ok close) ∧
      itemAt tokens close = .of (.ok closing) ∧ closing.kind = .closeParen ∧
      slice tokens (place + 2) close = .of (.ok inner) ∧ Balanced true inner

theorem Calls.closesCalls {levels : Nat} {tokens : List Token} (h : Calls levels tokens) : ClosesCalls tokens := by
  intro place name f hname hcallee
  obtain ⟨front, rest, rfl, rfl⟩ : ∃ front rest, tokens = front ++ name :: rest ∧ place = front.length := by
    obtain ⟨hplace, rfl⟩ := List.getElem?_eq_some_iff.mp hname
    refine ⟨tokens.take place, tokens.drop (place + 1), ?_, ?_⟩
    · rw [← List.drop_eq_getElem_cons hplace, List.take_append_drop]
    · rw [List.length_take_of_le (Nat.le_of_lt hplace)]
  rw [drop_append_cons] at hcallee
  obtain ⟨opening, inner, closing, after, args, rfl, hargs⟩ := h.of_append.1 (by simp [hcallee])
  exact ⟨_, closing, inner, matchingParen_call hargs.opens hargs.closes hargs.balanced, itemAt_closing, hargs.closes,
    slice_inner, hargs.balanced⟩

end Expansion

/-! ### Whole formulas -/

/-- Evaluation and expansion are never stuck, and have no syntax errors. No expression, and no function whose number of
arguments passes its check, asks for an argument that is not there. Expanding a formula that parses finds the
parentheses that close its calls, in its arguments too, counts no parentheses below zero, keeps within the tokens and
ends. -/
theorem never_stuck (ctx : Context) :
    (∀ e, evaluateChecked ctx e = .of (evaluate ctx e) ∧ NoSyntax (evaluate ctx e)) ∧
      (∀ (f : Builtin) (args : List Expr), f.checkArity args.length = .ok () →
        f.callChecked ctx.now (argumentsChecked ctx args) = .of (evaluate ctx (.call f.name args))) ∧
      ∀ formula tokens e, tokenize formula = .ok tokens → parseTokens tokens = .ok e →
        ClosesCalls tokens ∧ expandChecked ctx maxLevels tokens = .of (expandTokens ctx tokens) ∧
          NoSyntax (expandTokens ctx tokens) := by
  refine ⟨fun e => ⟨evaluateChecked_eq e, noSyntax_evaluate e⟩, fun f args harity => ?_,
    fun formula tokens e htokens hparse => ?_⟩
  · rw [argumentsChecked_eq]
    exact callChecked_evaluated f.ofName?_name harity
  · obtain ⟨body, last, rfl, hbody⟩ := tokenizeFrom_eq_ok htokens
    rw [parseTokens_eq_ok_iff, formulaBody_append_eof fun token htoken => (hbody token htoken).1] at hparse
    have heof : Inert (.eof last) := inert_of_kind (by simp [Token.eof])
    have hcalls : Calls (maxLevels - 1) (body ++ [.eof last]) :=
      hparse.covers (Nat.le_refl _) [.eof last] ⟨fun hcall => by simp [heof []] at hcall, trivial⟩
    have hphrase : Expands ctx body (Replaces ctx .comparison (maxLevels - 1) e) := hparse.expands (Nat.le_refl _)
    obtain ⟨result, hsplits, herror, -⟩ := hphrase.append (expands_self ctx heof)
    refine ⟨hcalls.closesCalls, expandChecked_eq hcalls, ?_⟩
    rw [hsplits.eq]
    exact fun err herr => (herror err herr).1

/-- The call in a call becomes part of its value, the one that fails stays. -/
theorem never_stuck_nested :
    Builtin.ifThenElse.callChecked emptyForm.now (argumentsChecked emptyForm [.literal .null, .field "X"]) =
        .of (evaluate emptyForm (.call "IF" [.literal .null, .field "X"])) ∧
      ∃ tokens e out, tokenize "SUM(1,ROUND(2.5))+AVG(1/0)" = .ok tokens ∧ parseTokens tokens = .ok e ∧
        ClosesCalls tokens ∧ expandChecked emptyForm maxLevels tokens = .of (.ok out) ∧
        Token.render out = "4+AVG(1/0)" := by
  obtain ⟨-, hcall, hformula⟩ := never_stuck emptyForm
  have htext : expandFormula emptyForm "SUM(1,ROUND(2.5))+AVG(1/0)" = .ok "4+AVG(1/0)" := by decide +kernel
  obtain ⟨tokens, e, out, htokens, he, hout, hrender⟩ := expandFormula_eq_ok htext
  obtain ⟨hcloses, hexpand, -⟩ := hformula _ tokens e htokens he
  rw [hout] at hexpand
  exact ⟨hcall .ifThenElse _ rfl, tokens, e, out, htokens, he, hcloses, hexpand, hrender⟩

end FormRules.Formula
