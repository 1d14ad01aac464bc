import FormRules.Proofs.Formula.Rereading

/-!
# Reading rendered tokens

The tokens of a formula are spelled if all its functions are built-in ones: a number that is read is a numeral, and
the names of these functions are words that are their own upper case. So, by `Derives.rewrites`, the text of the
tokens without any blanks is a formula with the same tokens, but for the signs of numbers (`tokenize_render`).
-/

namespace FormRules.Formula

open Lexeme

theorem Lexeme.IsNumeral.not_nonfinite {text : String} (h : IsNumeral text.toList) : text ∉ nonfiniteWords := by
  rcases h with h | ⟨body, hbody, h⟩
  · exact IsUnsigned.not_nonfinite h
  · intro hmem
    have hinf : body = "inf".toList := by
      simp only [nonfiniteWords, List.mem_cons, List.not_mem_nil, or_false] at hmem
      rcases hmem with rfl | rfl | rfl
      · cases hbody
      · exact (List.cons.inj hbody).2.symm
      · cases hbody
    exact IsUnsigned.not_nonfinite (hinf ▸ h) (by decide)

theorem legible_of_tokenize {formula : String} {body : List Token} {last : Nat}
    (h : tokenize formula = .ok (body ++ [.eof last])) : ∀ t ∈ body, Legible t.kind t.text := by
  obtain ⟨others, last', hsplit, hlegible⟩ := tokenizeFrom_eq_ok h
  obtain ⟨rfl, -⟩ := List.append_inj' hsplit rfl
  exact fun t ht => (hlegible t ht).2

/-- The name of a built-in function is a word in upper case. -/
theorem isWord_of_builtin {name : String} (h : (Builtin.ofName? name).isSome = true) :
    isWord name.toList = true ∧ Text.upper name = name := by
  have hall : ∀ f ∈ Builtin.all,
      (isWord f.name.toList && f.name.toList.all fun c => 0x41 ≤ c.toNat ∧ c.toNat ≤ 0x5A) = true :=
    List.all_eq_true.mp (by decide +kernel)
  obtain ⟨f, hf⟩ := Option.isSome_iff_exists.mp h
  obtain rfl : f.name = name := by simpa using List.find?_some hf
  obtain ⟨hword, hcapitals⟩ := (Bool.and_eq_true _ _).mp (hall f (List.mem_of_find?_eq_some hf))
  refine ⟨hword, Text.upper_capitals fun c hc => ?_⟩
  exact of_decide_eq_true (List.all_eq_true.mp hcapitals c hc)

/-- The text of the tokens of a formula, if all its functions are built-in ones, is a formula again. Its tokens are of
the same kinds and texts, except that each minus that subtracts from nothing is the sign of the number right behind
it, where that number has none. -/
theorem tokenize_render {formula : String} {tokens : List Token} {e : Expr} (htokens : tokenize formula = .ok tokens)
    (hparse : parseFormula formula = .ok e)
    (hnames : ∀ t ∈ tokens, t.kind = .function → (Builtin.ofName? t.text).isSome = true) :
    ∃ again e', tokenize (Token.render tokens) = .ok again ∧ parseFormula (Token.render tokens) = .ok e' ∧
      again.map Token.content = (mergeSigns false tokens).map Token.content := by
  obtain ⟨body, last, hbody, hd⟩ := parseFormula_eq_ok_iff.mp hparse
  obtain rfl : tokens = body ++ [.eof last] := Except.ok.inj (htokens.symm.trans hbody)
  have hlegible : ∀ t ∈ body, Legible t.kind t.text := legible_of_tokenize htokens
  have hspelled : ∀ t ∈ body, t.Spelled := by
    refine fun t ht => ⟨fun hk => ?_, fun hk => ?_⟩
    · have hnumber : Legible .number t.text := hk ▸ hlegible t ht
      exact hnumber.isNumeral.not_nonfinite
    · exact (isWord_of_builtin (hnames t (List.mem_append_left _ ht) hk)).1
  obtain ⟨out, next, ⟨⟨e', hd'⟩, hrewrites⟩, hread⟩ :=
    (hd.rewrites fun t ht => (hlegible t ht).shaped).exists_tokens hspelled last
  refine ⟨_, e', hread, parseFormula_eq_ok_iff.mpr ⟨out, next, hread, hd'⟩, ?_⟩
  have hcontent : (mergeSigns false (body ++ [.eof last])).map Token.reread =
      (mergeSigns false (body ++ [.eof last])).map Token.content := by
    refine List.map_congr_left fun t ht => Token.reread_eq_content fun hk => ?_
    rcases mem_mergeSigns ht with hmem | hnumber
    · exact (isWord_of_builtin (hnames t hmem hk)).2
    · cases hk.symm.trans hnumber
  rw [← hcontent, hrewrites [.eof last], List.map_append]
  rfl

/-- A minus in front of another one, of a number, of a name and of a number with a sign. -/
theorem tokenize_render_signs :
    let formula := " max( - - 5, -[a b], 1 - -2, \"x\"\"y\" )"
    let tokens : List Token := [⟨.function, "MAX", 1⟩, ⟨.openParen, "(", 4⟩, ⟨.operator, "-", 6⟩,
      ⟨.operator, "-", 8⟩, ⟨.number, "5", 10⟩, ⟨.comma, ",", 11⟩, ⟨.operator, "-", 13⟩, ⟨.field, "a b", 14⟩,
      ⟨.comma, ",", 19⟩, ⟨.number, "1", 21⟩, ⟨.operator, "-", 23⟩, ⟨.number, "-2", 25⟩, ⟨.comma, ",", 27⟩,
      ⟨.text, "x\"y", 29⟩, ⟨.closeParen, ")", 36⟩, .eof 37]
    let text := "MAX(--5,-[a b],1--2,\"x\"\"y\")"
    tokenize formula = .ok tokens ∧ Token.render tokens = text ∧
      ∃ again e, tokenize text = .ok again ∧ parseFormula text = .ok e ∧
        again.map Token.content = [(.function, "MAX"), (.openParen, "("), (.operator, "-"), (.number, "-5"),
          (.comma, ","), (.operator, "-"), (.field, "a b"), (.comma, ","), (.number, "1"), (.operator, "-"),
          (.number, "-2"), (.comma, ","), (.text, "x\"y"), (.closeParen, ")"), (.eof, "")] := by
  intro formula tokens text
  have htokens : tokenize formula = .ok tokens := by decide +kernel
  have hrender : Token.render tokens = text := by decide +kernel
  have hparses : (parseFormula formula).toOption.isSome = true := by decide +kernel
  refine ⟨htokens, hrender, ?_⟩
  cases hparse : parseFormula formula with
  | error err =>
    rw [hparse] at hparses
    cases hparses
  | ok e =>
    obtain ⟨again, e', hread, hparse', hcontent⟩ := tokenize_render htokens hparse (by decide)
    rw [hrender] at hread hparse'
    exact ⟨again, e', hread, hparse', hcontent⟩

end FormRules.Formula
