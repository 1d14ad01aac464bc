import FormRules.Formula.Expansion

/-!
# The formula engine

An engine evaluates formulas and keeps what it compiled: a `Cache` holds, under the exact text of a formula,
its tree and whether it has expandable calls. A formula that does not parse is not kept. As an entry is always
what compiling its text gives, the cache changes no result; the serial number of an entry tells one
compilation from another.

Conditions never fail: a missing or blank formula holds, and a formula with an error does not.
-/

namespace FormRules.Formula

/-- A formula that parsed. -/
structure Compiled where
  source : String
  expr : Expr
  hasExpandable : Bool
  serial : Nat

/-- The entry is what compiling the text gives. -/
def Compiled.IsOf (compiled : Compiled) (source : String) : Prop :=
  compiled.source = source ∧ parseFormula source = .ok compiled.expr ∧
    compiled.hasExpandable = compiled.expr.hasExpandable

/-- Compiled formulas by their text. -/
structure Cache where
  entries : Std.ExtTreeMap String Compiled compare
  nextSerial : Nat
  sound : ∀ (source : String) (compiled : Compiled), entries[source]? = some compiled → compiled.IsOf source

namespace Cache

/-- No entries. -/
def empty (nextSerial : Nat := 0) : Cache where
  entries := ∅
  nextSerial
  sound := by simp

def contains (cache : Cache) (source : String) : Bool := cache.entries.contains source

def size (cache : Cache) : Nat := cache.entries.size

/-- Forgets all entries; serial numbers are not used again. -/
def clear (cache : Cache) : Cache := .empty cache.nextSerial

/-- The entry of a formula, compiled now if there is none. -/
def compile (cache : Cache) (source : String) : Outcome Compiled × Cache :=
  match cache.entries[source]? with
  | some compiled => (.ok compiled, cache)
  | none =>
    match h : parseFormula source with
    | .error e => (.error e, cache)
    | .ok expr =>
      let compiled : Compiled := ⟨source, expr, expr.hasExpandable, cache.nextSerial⟩
      (.ok compiled,
        { entries := cache.entries.insert source compiled
          nextSerial := cache.nextSerial + 1
          sound := by
            intro other entry he
            rw [Std.ExtTreeMap.getElem?_insert] at he
            split at he
            · next heq =>
              cases Std.LawfulEqOrd.eq_of_compare heq
              cases he
              exact ⟨rfl, h, rfl⟩
            · exact cache.sound other entry he })

end Cache

/-- A formula that is missing or blank sets no condition. -/
def isBlankFormula (formula : Option String) : Bool := formula.all Text.isBlankText

/-- Checks that a formula parses; a missing or blank one is in order. -/
def check (formula : Option String) : Outcome Unit :=
  match formula with
  | some source => if isBlankFormula formula then .ok () else (parseFormula source).map fun _ => ()
  | none => .ok ()

def isValid (formula : Option String) : Bool := (check formula).toBool

/-- The names of the fields that a formula refers to; none if it cannot be read. -/
def dependencies (formula : String) : List String := (fieldReferences formula).toOption.getD []

structure Engine where
  cache : Cache := .empty

namespace Engine

def cacheSize (engine : Engine) : Nat := engine.cache.size

def clearCache (engine : Engine) : Engine := ⟨engine.cache.clear⟩

/-- The value of a formula. -/
def tryEvaluate (engine : Engine) (ctx : Context) (formula : String) : Outcome Value × Engine :=
  let (compiled, cache) := engine.cache.compile formula
  (compiled.bind (evaluate ctx ·.expr), ⟨cache⟩)

/-- The value of a formula that never fails: `TRUE` if it is missing or blank, `FALSE` on an error. -/
def evaluate (engine : Engine) (ctx : Context) (formula : Option String) : Value × Engine :=
  match formula with
  | some source =>
    if isBlankFormula formula then (.boolean true, engine)
    else
      let (result, engine) := engine.tryEvaluate ctx source
      (result.toOption.getD (.boolean false), engine)
  | none => (.boolean true, engine)

/-- Whether a condition holds. -/
def holds (engine : Engine) (ctx : Context) (formula : Option String) : Bool × Engine :=
  let (value, engine) := engine.evaluate ctx formula
  (value.toBool, engine)

end Engine

end FormRules.Formula
