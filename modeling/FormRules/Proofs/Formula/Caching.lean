import Mathlib.Data.List.Dedup
import Mathlib.Data.List.Induction
import FormRules.Proofs.Field
import FormRules.Proofs.Formula.Reading

/-!
# Caching is invisible

An engine serves requests one after the other. What it answers depends on the request alone (`serve_fst`), whatever
it has compiled before. What it has compiled is known as well: after any requests these are the formulas which parse
among those that were to be evaluated since the last clearing (`mem_entries_serveAll`), each with its own tree
(`getElem?_serveAll`) and counted once (`cacheSize_serveAll`).
-/

namespace FormRules.Formula

namespace Engine

/-- What an engine is asked for. -/
inductive Request where
  | evaluate (ctx : Context) (formula : Option String)
  | tryEvaluate (ctx : Context) (formula : String)
  | holds (ctx : Context) (formula : Option String)
  | expand (ctx : Context) (formula : String)
  | clear

/-- What an engine answers. -/
inductive Response where
  | value (v : Value)
  | result (result : Outcome Value)
  | truth (holds : Bool)
  | text (result : Outcome String)
  | done

namespace Request

def isClear : Request → Bool
  | clear => true
  | _ => false

/-- The formula that is compiled for a request. Blank conditions are not, and expansion works on the text. -/
def source? : Request → Option String
  | evaluate _ formula => formula.filter fun source => !Text.isBlankText source
  | tryEvaluate _ formula => some formula
  | holds _ formula => formula.filter fun source => !Text.isBlankText source
  | expand _ _ => none
  | clear => none

/-- The answer to a request without an engine: the text is parsed, and the tree evaluated. -/
def meaning : Request → Response
  | evaluate ctx formula => .value (conditionValue ctx formula)
  | tryEvaluate ctx formula => .result (resultOf ctx formula)
  | holds ctx formula => .truth (conditionValue ctx formula).toBool
  | expand ctx formula => .text (expandFormula ctx formula)
  | clear => .done

end Request

/-- Answers a request. -/
def serve (engine : Engine) : Request → Response × Engine
  | .evaluate ctx formula =>
    let (value, engine) := engine.evaluate ctx formula
    (.value value, engine)
  | .tryEvaluate ctx formula =>
    let (result, engine) := engine.tryEvaluate ctx formula
    (.result result, engine)
  | .holds ctx formula =>
    let (holds, engine) := engine.holds ctx formula
    (.truth holds, engine)
  | .expand ctx formula => (.text (expandFormula ctx formula), engine)
  | .clear => (.done, engine.clearCache)

/-- Answers some requests one after the other. -/
def serveAll (engine : Engine) : List Request → List Response × Engine
  | [] => ([], engine)
  | request :: rest =>
    let (response, engine) := engine.serve request
    let (responses, engine) := engine.serveAll rest
    (response :: responses, engine)

/-- The formulas that were compiled since the last clearing, the latest first. -/
def sinceClear (requests : List Request) : List String :=
  (requests.reverse.takeWhile fun request => !request.isClear).filterMap Request.source?

end Engine

/-- Compiling adds the formula if it parses, and touches no other. -/
theorem Cache.mem_entries_compile {cache : Cache} {source other : String} :
    other ∈ (cache.compile source).2.entries ↔
      other ∈ cache.entries ∨ source = other ∧ ∃ expr, parseFormula other = .ok expr := by
  unfold Cache.compile
  split
  · next compiled hentry =>
    have hmem : source ∈ cache.entries := mem_iff_getElem?.mpr ⟨compiled, hentry⟩
    refine ⟨.inl, ?_⟩
    rintro (hother | ⟨rfl, -⟩)
    · exact hother
    · exact hmem
  · split
    · next e hparse =>
      refine ⟨.inl, ?_⟩
      rintro (hother | ⟨rfl, expr, hexpr⟩)
      · exact hother
      · rw [hparse] at hexpr
        cases hexpr
    · next expr hparse =>
      rw [Std.ExtTreeMap.mem_insert, Std.LawfulEqCmp.compare_eq_iff_eq]
      constructor
      · rintro (rfl | hother)
        · exact .inr ⟨rfl, expr, hparse⟩
        · exact .inl hother
      · rintro (hother | ⟨rfl, -⟩)
        · exact .inr hother
        · exact .inl rfl

namespace Engine

variable {engine : Engine}

/-- The answer to a request does not depend on what has been compiled before. -/
theorem serve_fst (engine : Engine) (request : Request) : (engine.serve request).1 = request.meaning := by
  cases request with
  | evaluate ctx formula => exact congrArg Response.value (engine.evaluate_fst ctx formula)
  | tryEvaluate ctx formula => exact congrArg Response.result (tryEvaluate_fst engine ctx formula)
  | holds ctx formula => exact congrArg Response.truth (engine.holds_fst ctx formula)
  | expand ctx formula => rfl
  | clear => rfl

theorem serveAll_fst (engine : Engine) (requests : List Request) :
    (engine.serveAll requests).1 = requests.map Request.meaning := by
  induction requests generalizing engine with
  | nil => rfl
  | cons request rest ih => exact List.cons_eq_cons.mpr ⟨engine.serve_fst request, ih _⟩

theorem cache_evaluate (engine : Engine) (ctx : Context) (formula : Option String) :
    (engine.evaluate ctx formula).2.cache = (formula.filter fun source => !Text.isBlankText source).elim engine.cache
      fun source => (engine.cache.compile source).2 := by
  cases formula with
  | none => rfl
  | some source =>
    have hblank : isBlankFormula (some source) = Text.isBlankText source := rfl
    unfold evaluate
    dsimp only
    cases hsource : Text.isBlankText source <;>
      simp [hblank, hsource, tryEvaluate, Option.filter_some]

/-- A request that does not clear the cache compiles at most its formula. -/
theorem cache_serve (engine : Engine) (request : Request) : (engine.serve request).2.cache =
    if request.isClear then engine.cache.clear
    else request.source?.elim engine.cache fun source => (engine.cache.compile source).2 := by
  cases request with
  | evaluate ctx formula => exact engine.cache_evaluate ctx formula
  | tryEvaluate ctx formula => rfl
  | holds ctx formula => exact engine.cache_evaluate ctx formula
  | expand ctx formula => rfl
  | clear => rfl

theorem mem_entries_serve {request : Request} {source : String} : source ∈ (engine.serve request).2.cache.entries ↔
    request.isClear = false ∧ (source ∈ engine.cache.entries ∨
      request.source? = some source ∧ ∃ expr, parseFormula source = .ok expr) := by
  rw [cache_serve]
  cases hclear : request.isClear with
  | true => simp [Cache.clear, Cache.empty]
  | false =>
    cases hsource : request.source? with
    | none => simp
    | some compiled =>
      simp only [Bool.false_eq_true, ↓reduceIte, Option.elim_some, Cache.mem_entries_compile, true_and,
        Option.some.injEq]

theorem serveAll_concat (engine : Engine) (requests : List Request) (request : Request) :
    (engine.serveAll (requests ++ [request])).2 = ((engine.serveAll requests).2.serve request).2 := by
  induction requests generalizing engine with
  | nil => rfl
  | cons first rest ih => exact ih (engine.serve first).2

theorem sinceClear_concat (requests : List Request) (request : Request) : sinceClear (requests ++ [request]) =
    if request.isClear then [] else request.source?.toList ++ sinceClear requests := by
  unfold sinceClear
  rw [List.reverse_append, List.reverse_singleton, List.singleton_append, List.takeWhile_cons]
  cases hclear : request.isClear with
  | true => rfl
  | false => cases hsource : request.source? <;> simp [hsource]

/-- After any requests a new engine holds the formulas that parse among those compiled since the last clearing. -/
theorem mem_entries_serveAll {requests : List Request} {source : String} :
    source ∈ (({} : Engine).serveAll requests).2.cache.entries ↔
      source ∈ sinceClear requests ∧ ∃ expr, parseFormula source = .ok expr := by
  induction requests using List.reverseRecOn with
  | nil => simp [serveAll, sinceClear, Cache.empty]
  | append_singleton requests request ih =>
    rw [serveAll_concat, mem_entries_serve, ih, sinceClear_concat]
    cases hclear : request.isClear with
    | true => simp
    | false =>
      simp only [true_and, Bool.false_eq_true, ↓reduceIte, List.mem_append, Option.mem_toList]
      tauto

/-- An entry holds the tree of its text, and tells whether that has expandable calls. -/
theorem getElem?_serveAll (requests : List Request) (source : String) :
    ((({} : Engine).serveAll requests).2.cache.entries[source]?.map fun compiled =>
        (compiled.source, compiled.expr, compiled.hasExpandable)) =
      if source ∈ sinceClear requests
      then (parseFormula source).toOption.map fun expr => (source, expr, expr.hasExpandable)
      else none := by
  cases hentry : (({} : Engine).serveAll requests).2.cache.entries[source]? with
  | some compiled =>
    have hmem := mem_entries_serveAll.mp (mem_iff_getElem?.mpr ⟨compiled, hentry⟩)
    obtain ⟨hsource, hparse, hflag⟩ := (({} : Engine).serveAll requests).2.cache.sound source compiled hentry
    rw [if_pos hmem.1, hparse, Option.map_some, hsource, hflag]
    rfl
  | none =>
    have hmem : ¬ (source ∈ sinceClear requests ∧ ∃ expr, parseFormula source = .ok expr) := by
      rw [← mem_entries_serveAll, mem_iff_getElem?, hentry]
      exact fun ⟨_, hsome⟩ => nomatch hsome
    split
    · next hsource =>
      cases hparse : parseFormula source with
      | error e => rfl
      | ok expr => exact absurd ⟨hsource, expr, hparse⟩ hmem
    · rfl

/-- Each of these formulas is counted once. -/
theorem cacheSize_serveAll (requests : List Request) : (({} : Engine).serveAll requests).2.cacheSize =
    ((sinceClear requests).filter fun source => (parseFormula source).toBool).dedup.length := by
  have hparses : ∀ source, (parseFormula source).toBool = true ↔ ∃ expr, parseFormula source = .ok expr := by
    intro source
    cases parseFormula source <;> simp [Except.toBool]
  have hperm : (({} : Engine).serveAll requests).2.cache.entries.keys.Perm
      ((sinceClear requests).filter fun source => (parseFormula source).toBool).dedup := by
    refine (List.perm_ext_iff_of_nodup nodup_keys (List.nodup_dedup _)).mpr fun source => ?_
    rw [Std.ExtTreeMap.mem_keys, mem_entries_serveAll, List.mem_dedup, List.mem_filter, hparses]
  rw [← hperm.length_eq, Std.ExtTreeMap.length_keys]
  rfl

/-- A blank condition and a text that does not parse are not counted, and a formula that comes twice is counted once. -/
example : (({} : Engine).serveAll [.holds titledOrder (some " "), .tryEvaluate titledOrder "[Qty]+",
    .evaluate titledOrder (some "[Qty]+1"), .tryEvaluate namedOrder "[Qty]+1"]).2.cacheSize = 1 := by
  decide +kernel

/-- Caching is invisible. After any requests to a new engine all answers were those that the texts give by themselves,
and every further request is answered as by a new engine. The cache holds the formulas that parse among those
compiled since the last clearing, under their exact texts and with their own trees and flags, and its size is the
number of these formulas. -/
theorem serveAll_eq (requests : List Request) :
    let (responses, engine) := ({} : Engine).serveAll requests
    responses = requests.map Request.meaning ∧
      (∀ request, (engine.serve request).1 = request.meaning ∧
        (({} : Engine).serve request).1 = request.meaning) ∧
      (∀ source, (engine.cache.entries[source]?.map fun compiled =>
          (compiled.source, compiled.expr, compiled.hasExpandable)) =
        if source ∈ sinceClear requests
        then (parseFormula source).toOption.map fun expr => (source, expr, expr.hasExpandable)
        else none) ∧
      engine.cacheSize = ((sinceClear requests).filter fun source => (parseFormula source).toBool).dedup.length :=
  ⟨serveAll_fst _ requests, fun request => ⟨serve_fst _ request, serve_fst _ request⟩,
    getElem?_serveAll requests, cacheSize_serveAll requests⟩

end Engine

end FormRules.Formula
