import FormRules.Proofs.Json.Scalars

/-!
# Reading documents back

A layout says where blanks go between the parts of a document; writing without blanks and writing with
indentation are two of them (`write_compact`, `write_pretty`). A document whose numbers are whole and whose
strings are texts is read back from every layout (`Plain.read?_write`).
-/

namespace FormRules.Json

/-- Where blanks go when a document is written: in front of each entry, by its level, and behind the colon of
a key. -/
structure Layout where
  line : Nat → List Char
  gap : List Char
  line_isSpace : ∀ level, ∀ c ∈ line level, isSpace c = true
  gap_isSpace : ∀ c ∈ gap, isSpace c = true

namespace Layout

def compact : Layout where
  line _ := []
  gap := []
  line_isSpace := by simp
  gap_isSpace := by simp

def pretty : Layout where
  line := newLine
  gap := [' ']
  line_isSpace level c hc := by
    rcases List.mem_cons.mp hc with rfl | hc
    · rfl
    · rw [List.eq_of_mem_replicate hc]
      rfl
  gap_isSpace := by simp [isSpace]

variable (layout : Layout)

mutual

/-- Writes a document whose entries are one level below the given one. -/
def write (level : Nat) : Json → List Char
  | null => "null".toList
  | bool b => if b then "true".toList else "false".toList
  | number s => s.toList
  | string s => quote s
  | array [] => ['[', ']']
  | array (item :: items) =>
    '[' :: (layout.line (level + 1) ++ write (level + 1) item ++ writeItems level items)
  | object [] => ['\x7b', '\x7d']
  | object ((key, value) :: entries) =>
    '\x7b' :: (layout.line (level + 1) ++ quote key ++ ':' :: (layout.gap ++ (write (level + 1) value ++
      writeEntries level entries)))

/-- The items after the first one, and the closing bracket. -/
def writeItems (level : Nat) : List Json → List Char
  | [] => layout.line level ++ [']']
  | item :: items => ',' :: (layout.line (level + 1) ++ write (level + 1) item ++ writeItems level items)

/-- The entries after the first one, and the closing brace. -/
def writeEntries (level : Nat) : List (Option String × Json) → List Char
  | [] => layout.line level ++ ['\x7d']
  | (key, value) :: entries =>
    ',' :: (layout.line (level + 1) ++ quote key ++ ':' :: (layout.gap ++ (write (level + 1) value ++
      writeEntries level entries)))

end

mutual

theorem write_compact (level : Nat) (j : Json) : compact.write level j = j.compactChars := by
  match j with
  | null | bool _ | number _ | string _ | array [] | object [] => simp [write, compactChars]
  | array (item :: items) =>
    rw [write, compactChars, write_compact _ item, writeItems_compact level items]
    rfl
  | object ((key, value) :: entries) =>
    rw [write, compactChars, write_compact _ value, writeEntries_compact level entries]
    rfl

theorem writeItems_compact (level : Nat) (items : List Json) : compact.writeItems level items = compactItems items := by
  match items with
  | [] => rw [writeItems, compactItems]; rfl
  | item :: items =>
    rw [writeItems, compactItems, write_compact _ item, writeItems_compact level items]
    rfl

theorem writeEntries_compact (level : Nat) (entries : List (Option String × Json)) :
    compact.writeEntries level entries = compactEntries entries := by
  match entries with
  | [] => rw [writeEntries, compactEntries]; rfl
  | (key, value) :: entries =>
    rw [writeEntries, compactEntries, write_compact _ value, writeEntries_compact level entries]
    rfl

end

mutual

theorem write_pretty (level : Nat) (j : Json) : pretty.write level j = j.prettyChars level := by
  match j with
  | null | bool _ | number _ | string _ | array [] | object [] => simp [write, prettyChars]
  | array (item :: items) =>
    rw [write, prettyChars, write_pretty _ item, writeItems_pretty level items]
    rfl
  | object ((key, value) :: entries) =>
    rw [write, prettyChars, write_pretty _ value, writeEntries_pretty level entries]
    rfl

theorem writeItems_pretty (level : Nat) (items : List Json) :
    pretty.writeItems level items = prettyItems level items := by
  match items with
  | [] => rw [writeItems, prettyItems]; rfl
  | item :: items =>
    rw [writeItems, prettyItems, write_pretty _ item, writeItems_pretty level items]
    rfl

theorem writeEntries_pretty (level : Nat) (entries : List (Option String × Json)) :
    pretty.writeEntries level entries = prettyEntries level entries := by
  match entries with
  | [] => rw [writeEntries, prettyEntries]; rfl
  | (key, value) :: entries =>
    rw [writeEntries, prettyEntries, write_pretty _ value, writeEntries_pretty level entries]
    rfl

end

end Layout

/-- Documents that are written as they are: numbers are whole, and strings and keys are texts. -/
inductive Plain : Json → Prop
  | null : Plain null
  | bool (b : Bool) : Plain (bool b)
  | int (n : Int) : Plain (int n)
  | text (s : String) : Plain (text s)
  | array {items : List Json} (h : ∀ item ∈ items, Plain item) : Plain (array items)
  | object {entries : List (Option String × Json)} (hkeys : ∀ entry ∈ entries, entry.1.isSome = true)
      (h : ∀ entry ∈ entries, Plain entry.2) : Plain (object entries)

theorem skipSpaces_append {spaces cs : List Char} (h : ∀ c ∈ spaces, isSpace c = true) :
    skipSpaces (spaces ++ cs) = skipSpaces cs := List.dropWhile_append_of_pos h

theorem skipSpaces_cons {c : Char} {cs : List Char} (h : isSpace c = false) : skipSpaces (c :: cs) = c :: cs := by
  simp [skipSpaces, h]

theorem readValue_spaces {spaces cs : List Char} (h : ∀ c ∈ spaces, isSpace c = true) (steps : Nat) :
    readValue steps (spaces ++ cs) = readValue steps cs := by
  cases steps with
  | zero => rfl
  | succ steps => rw [readValue, readValue, skipSpaces_append h]

theorem readItems_spaces {spaces cs : List Char} (h : ∀ c ∈ spaces, isSpace c = true) (steps : Nat) :
    readItems steps (spaces ++ cs) = readItems steps cs := by
  cases steps with
  | zero => rfl
  | succ steps => rw [readItems, readItems, readValue_spaces h]

theorem readEntries_spaces {spaces cs : List Char} (h : ∀ c ∈ spaces, isSpace c = true) (steps : Nat) :
    readEntries steps (spaces ++ cs) = readEntries steps cs := by
  cases steps with
  | zero => rfl
  | succ steps => rw [readEntries, readEntries, skipSpaces_append h]

theorem readValue_int (n : Int) (steps : Nat) {rest : List Char} (hrest : Delimited rest) :
    readValue (steps + 1) ((toString n).toList ++ rest) = some (int n, rest) := by
  have hread := readNumber_int n hrest
  obtain ⟨c, cs, hcs, hc⟩ : ∃ c cs, (toString n).toList = c :: cs ∧ (c = '-' ∨ c.isDigit = true) := by
    rw [toList_toString_int]
    obtain ⟨c, digits, hn, hc⟩ := toDigits_head n.natAbs
    split
    · exact ⟨_, _, rfl, .inl rfl⟩
    · exact ⟨c, digits, hn, .inr hc⟩
  have hspace : isSpace c = false := by
    rcases hc with rfl | hc
    · rfl
    · rw [Bool.eq_false_iff]
      intro h
      simp only [isSpace, Bool.or_eq_true, decide_eq_true_eq] at h
      rcases h with ((rfl | rfl) | rfl) | rfl <;> contradiction
  have hother : ∀ d, d = 'n' ∨ d = 't' ∨ d = 'f' ∨ d = '"' ∨ d = '[' ∨ d = '\x7b' → c ≠ d := by
    rintro d hd rfl
    rcases hd with rfl | rfl | rfl | rfl | rfl | rfl <;> simp at hc
  rw [hcs, List.cons_append] at hread ⊢
  rw [readValue, skipSpaces_cons hspace]
  split
  case h_7 =>
    rw [hread, ← hcs]
    simp [int]
  all_goals
    next heq => exact absurd (List.cons.inj heq).1 (hother _ (by decide))

/-- A document is read from the front of a text that it was written at the front of. -/
def ReadsBack (layout : Layout) (j : Json) : Prop :=
  ∀ level steps rest, (layout.write level j).length ≤ steps → Delimited rest →
    readValue (steps + 1) (layout.write level j ++ rest) = some (j, rest)

variable {layout : Layout} {rest : List Char}

theorem delimited_cons {c : Char} (h : c = ',' ∨ c = ']' ∨ c = '\x7d') : Delimited (c :: rest) := by
  rintro d heq
  cases heq
  rcases h with rfl | rfl | rfl <;> decide

theorem delimited_spaces {spaces : List Char} (h : ∀ c ∈ spaces, isSpace c = true) (hrest : Delimited rest) :
    Delimited (spaces ++ rest) := by
  cases spaces with
  | nil => exact hrest
  | cons c spaces =>
    rintro d heq
    cases heq
    have hc := h c List.mem_cons_self
    simp only [isSpace, Bool.or_eq_true, decide_eq_true_eq] at hc
    rcases hc with ((rfl | rfl) | rfl) | rfl <;> decide

theorem delimited_writeItems (layout : Layout) (level : Nat) (items : List Json) (rest : List Char) :
    Delimited (layout.writeItems level items ++ rest) := by
  cases items with
  | nil =>
    rw [Layout.writeItems, List.append_assoc]
    exact delimited_spaces (layout.line_isSpace level) (delimited_cons (by simp))
  | cons item items =>
    rw [Layout.writeItems]
    exact delimited_cons (by simp)

theorem delimited_writeEntries (layout : Layout) (level : Nat) (entries : List (Option String × Json))
    (rest : List Char) : Delimited (layout.writeEntries level entries ++ rest) := by
  cases entries with
  | nil =>
    rw [Layout.writeEntries, List.append_assoc]
    exact delimited_spaces (layout.line_isSpace level) (delimited_cons (by simp))
  | cons entry entries =>
    rw [Layout.writeEntries]
    exact delimited_cons (by simp)

/-- The items of an array, from the first one to the closing bracket. -/
theorem readItems_write {item : Json} {items : List Json} (h : ∀ j ∈ item :: items, ReadsBack layout j)
    (level steps : Nat) (rest : List Char)
    (hsteps : (layout.write (level + 1) item ++ layout.writeItems level items).length ≤ steps) :
    readItems (steps + 1) (layout.write (level + 1) item ++ (layout.writeItems level items ++ rest)) =
      some (item :: items, rest) := by
  induction items generalizing item steps with
  | nil =>
    rw [List.length_append, Layout.writeItems, List.length_append, List.length_singleton] at hsteps
    obtain ⟨steps, rfl⟩ := Nat.exists_eq_add_one_of_ne_zero (show steps ≠ 0 by omega)
    rw [readItems, h item List.mem_cons_self (level + 1) steps _ (by omega)
      (delimited_writeItems layout level [] rest)]
    simp [Layout.writeItems, skipSpaces_append (layout.line_isSpace level), skipSpaces_cons, isSpace]
  | cons next items ih =>
    rw [List.length_append, Layout.writeItems, List.length_cons, List.append_assoc, List.length_append] at hsteps
    obtain ⟨steps, rfl⟩ := Nat.exists_eq_add_one_of_ne_zero (show steps ≠ 0 by omega)
    have hitems := ih (fun j hj => h j (List.mem_cons_of_mem _ hj)) steps (by omega)
    rw [readItems, h item List.mem_cons_self (level + 1) steps _ (by omega)
      (delimited_writeItems layout level (next :: items) rest)]
    simp [Layout.writeItems, readItems_spaces (layout.line_isSpace (level + 1)), skipSpaces_cons, isSpace, hitems]

/-- Behind a key stands its value, and behind that the next key or the end of the object. -/
theorem readEntries_key (layout : Layout) (key : String) {value : Json} {steps : Nat} {cs after : List Char}
    (hvalue : readValue steps cs = some (value, after)) (rest : List Char) :
    (skipSpaces after = ',' :: rest → readEntries (steps + 1) (quote (some key) ++ ':' :: (layout.gap ++ cs)) =
      (readEntries steps rest).map fun (entries, rest) => ((some key, value) :: entries, rest)) ∧
    (skipSpaces after = '\x7d' :: rest → readEntries (steps + 1) (quote (some key) ++ ':' :: (layout.gap ++ cs)) =
      some ([(some key, value)], rest)) := by
  have hquote : quote (some key) ++ ':' :: (layout.gap ++ cs) =
      '"' :: (key.toList.flatMap escape ++ '"' :: ':' :: (layout.gap ++ cs)) := by
    simp [quote]
  rw [hquote, readEntries, skipSpaces_cons rfl]
  simp only [readText_content, Option.bind_eq_bind, Option.bind_some]
  rw [skipSpaces_cons rfl]
  simp only [readValue_spaces layout.gap_isSpace, hvalue, Option.bind_some]
  constructor
  · intro hcomma
    rw [hcomma]
    show (readEntries steps rest).bind (fun read => some ((some key, value) :: read.1, read.2)) = _
    cases readEntries steps rest <;> rfl
  · intro hbrace
    rw [hbrace]
    rfl

/-- The entries of an object, from the first key to the closing brace. -/
theorem readEntries_write {key : String} {value : Json} {entries : List (Option String × Json)}
    (hkeys : ∀ entry ∈ entries, entry.1.isSome = true)
    (h : ∀ entry ∈ (some key, value) :: entries, ReadsBack layout entry.2) (level steps : Nat) (rest : List Char)
    (hsteps : (layout.write (level + 1) value ++ layout.writeEntries level entries).length ≤ steps) :
    readEntries (steps + 1) (quote (some key) ++ ':' :: (layout.gap ++ (layout.write (level + 1) value ++
      (layout.writeEntries level entries ++ rest)))) = some ((some key, value) :: entries, rest) := by
  have hvalue : ReadsBack layout value := h _ List.mem_cons_self
  induction entries generalizing key value steps with
  | nil =>
    rw [List.length_append, Layout.writeEntries, List.length_append, List.length_singleton] at hsteps
    obtain ⟨steps, rfl⟩ := Nat.exists_eq_add_one_of_ne_zero (show steps ≠ 0 by omega)
    refine (readEntries_key layout key (hvalue (level + 1) steps _ (by omega)
      (delimited_writeEntries layout level [] rest)) rest).2 ?_
    simp [Layout.writeEntries, skipSpaces_append (layout.line_isSpace level), skipSpaces_cons, isSpace]
  | cons entry entries ih =>
    obtain ⟨_ | next, value'⟩ := entry
    · simpa using hkeys _ List.mem_cons_self
    simp only [Layout.writeEntries, List.length_cons, List.length_append] at hsteps
    obtain ⟨steps, rfl⟩ := Nat.exists_eq_add_one_of_ne_zero (show steps ≠ 0 by omega)
    have hentries := @ih next value' (fun e he => hkeys e (List.mem_cons_of_mem _ he))
      (fun e he => h e (List.mem_cons_of_mem _ he)) steps (by rw [List.length_append]; omega)
      (h (some next, value') (by simp))
    have hread := hvalue (level + 1) steps _ (by omega)
      (delimited_writeEntries layout level ((some next, value') :: entries) rest)
    have hcomma : skipSpaces (layout.writeEntries level ((some next, value') :: entries) ++ rest) =
        ',' :: (layout.line (level + 1) ++ (quote (some next) ++ ':' :: (layout.gap ++
          (layout.write (level + 1) value' ++ (layout.writeEntries level entries ++ rest))))) := by
      simp [Layout.writeEntries, skipSpaces_cons, isSpace]
    rw [(readEntries_key layout key hread _).1 hcomma, readEntries_spaces (layout.line_isSpace (level + 1)), hentries]
    rfl

/-- No value starts with a closing bracket. -/
theorem skipSpaces_ne_bracket {steps : Nat} {cs : List Char} {read : Json × List Char}
    (h : readValue steps cs = some read) (after : List Char) : skipSpaces cs ≠ ']' :: after := by
  intro heq
  cases steps with
  | zero => cases h
  | succ steps => simp [readValue, heq, readNumber, readWhole, readDigits] at h

theorem readsBack_array {items : List Json} (h : ∀ item ∈ items, ReadsBack layout item) :
    ReadsBack layout (array items) := by
  intro level steps rest hsteps hrest
  obtain _ | ⟨item, items⟩ := items
  · simp [Layout.write, readValue, skipSpaces_cons, isSpace]
  · simp only [Layout.write, List.length_cons, List.length_append] at hsteps
    obtain ⟨steps, rfl⟩ := Nat.exists_eq_add_one_of_ne_zero (show steps ≠ 0 by omega)
    have hitems := readItems_write h level steps rest (by rw [List.length_append]; omega)
    have hitem := h item List.mem_cons_self (level + 1) steps _ (by omega)
      (delimited_writeItems layout level items rest)
    have htext : layout.write level (array (item :: items)) ++ rest = '[' :: (layout.line (level + 1) ++
        (layout.write (level + 1) item ++ (layout.writeItems level items ++ rest))) := by
      simp [Layout.write]
    rw [htext, readValue, skipSpaces_cons rfl]
    simp only [skipSpaces_append (layout.line_isSpace (level + 1)), readItems_spaces (layout.line_isSpace (level + 1)),
      hitems]
    split
    · next heq => exact absurd heq (skipSpaces_ne_bracket hitem _)
    · rfl

theorem readsBack_object {entries : List (Option String × Json)} (hkeys : ∀ entry ∈ entries, entry.1.isSome = true)
    (h : ∀ entry ∈ entries, ReadsBack layout entry.2) : ReadsBack layout (object entries) := by
  intro level steps rest hsteps hrest
  obtain _ | ⟨⟨_ | key, value⟩, entries⟩ := entries
  · simp [Layout.write, readValue, skipSpaces_cons, isSpace]
  · simpa using hkeys _ List.mem_cons_self
  · simp only [Layout.write, List.length_cons, List.length_append] at hsteps
    obtain ⟨steps, rfl⟩ := Nat.exists_eq_add_one_of_ne_zero (show steps ≠ 0 by omega)
    have hentries := readEntries_write (fun e he => hkeys e (List.mem_cons_of_mem _ he)) h level steps rest
      (by rw [List.length_append]; omega)
    have htext : layout.write level (object ((some key, value) :: entries)) ++ rest =
        '\x7b' :: (layout.line (level + 1) ++ (quote (some key) ++ ':' :: (layout.gap ++
          (layout.write (level + 1) value ++ (layout.writeEntries level entries ++ rest))))) := by
      simp [Layout.write]
    rw [htext, readValue, skipSpaces_cons rfl]
    simp only [skipSpaces_append (layout.line_isSpace (level + 1)),
      readEntries_spaces (layout.line_isSpace (level + 1)), hentries]
    rfl

theorem Plain.readsBack {j : Json} (h : Plain j) (layout : Layout) : ReadsBack layout j := by
  induction h with
  | null =>
    intro level steps rest hsteps hrest
    simp [Layout.write, readValue, skipSpaces_cons, isSpace]
  | bool b =>
    intro level steps rest hsteps hrest
    cases b <;> simp [Layout.write, readValue, skipSpaces_cons, isSpace]
  | int n =>
    intro level steps rest hsteps hrest
    rw [Json.int, Layout.write]
    exact readValue_int n steps hrest
  | text s =>
    intro level steps rest hsteps hrest
    simp [Json.text, Layout.write, quote, readValue, skipSpaces_cons, isSpace, readText_content]
  | array _ ih => exact readsBack_array ih
  | object hkeys _ ih => exact readsBack_object hkeys ih

theorem Plain.read?_write {j : Json} (h : Plain j) (layout : Layout) (level : Nat) :
    read? (String.ofList (layout.write level j)) = some j := by
  have hread := h.readsBack layout level _ [] (Nat.le_refl _) (by simp [Delimited])
  rw [List.append_nil] at hread
  rw [read?, String.toList_ofList, hread]
  rfl

/-- A plain document is read back from the text without blanks. -/
theorem Plain.read?_compact {j : Json} (h : Plain j) : read? j.compact = some j := by
  rw [compact, ← Layout.write_compact 0 j]
  exact h.read?_write Layout.compact 0

/-- A plain document is read back from the indented text. -/
theorem Plain.read?_pretty {j : Json} (h : Plain j) : read? j.pretty = some j := by
  rw [pretty, ← Layout.write_pretty 0 j]
  exact h.read?_write Layout.pretty 0

end FormRules.Json
