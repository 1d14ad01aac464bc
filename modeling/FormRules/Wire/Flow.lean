import FormRules.Flow.Progress
import FormRules.Flow.Recalculation
import FormRules.Json.Reader
import FormRules.Wire.Form

/-!
# Saved sections and flows

Sections, options and states of flows as documents, and events and progress as they are reported. The
conditions of a section may be given under two names each. The history of a state is saved with the latest
section last.
-/

namespace FormRules

namespace Wire

def formSection (s : Section) : Json :=
  .record [("id", Json.text s.id), ("title", Json.text s.title), ("fields", Json.list .text s.fields),
    ("showCondition", s.showCondition?.map .text), ("requiredCondition", s.requiredCondition?.map .text),
    ("completionCondition", s.completionCondition?.map .text), ("order", Json.int s.order.toInt),
    ("allowSkip", some (.bool s.allowSkip)), ("autoAdvance", some (.bool s.autoAdvance)),
    ("advanceDelayMs", Json.int s.advanceDelay.toNat)]

def formSection? : Decoder Section := fun j => do
  let [id, title, fields, showCondition, requiredCondition, completionCondition, order, skip, auto, delay] ←
      structure? [["id"], ["title"], ["fields"], ["showCondition", "showFormula"],
        ["requiredCondition", "requiredFormula"], ["completionCondition", "completionFormula"], ["order"],
        ["allowSkip"], ["autoAdvance"], ["advanceDelayMs"]] j
    | none
  return { id := ← orElse "" text id, title := ← orElse "" text title
           fields := ← orElse [] (list text) fields
           showCondition? := ← orElse none (optional text) showCondition
           requiredCondition? := ← orElse none (optional text) requiredCondition
           completionCondition? := ← orElse none (optional text) completionCondition
           order := ← orElse 0 int32? order, allowSkip := ← orElse false bool skip
           autoAdvance := ← orElse false bool auto, advanceDelay := ← orElse 0 uint64? delay }

def flowOptions (options : FlowOptions) : Json :=
  .record [("allowBackNavigation", some (.bool options.allowBack))]

def flowOptions? : Decoder FlowOptions := fun j => do
  let [allowBack] ← structure? [["allowBackNavigation"]] j | none
  return ⟨← orElse true bool allowBack⟩

def textOrNull (s : Option String) : Json := (s.map .text).getD .null

def flowState (state : FlowState) : Json :=
  .record [("currentSectionId", textOrNull state.current?),
    ("completedSectionIds", Json.list .text state.completed.toList),
    ("visitedSectionIds", Json.list .text state.visited.toList),
    ("navigationHistory", Json.list .text state.history.reverse)]

def flowState? : Decoder FlowState := fun j => do
  let [current, completed, visited, history] ← structure?
      [["currentSectionId"], ["completedSectionIds"], ["visitedSectionIds"], ["navigationHistory"]] j
    | none
  return { current? := ← orElse none (optional text) current
           completed := .ofList (← orElse [] (list text) completed)
           visited := .ofList (← orElse [] (list text) visited)
           history := (← orElse [] (list text) history).reverse }

def event (e : Event) : Json :=
  let body : List (String × Option Json) := match e with
    | .sectionChanged before after => [("from", textOrNull before), ("to", Json.text after)]
    | .validationFailed id => [("sectionId", Json.text id)]
    | .formCompleted ids => [("completedSectionIds", Json.list .text ids)]
    | .flowRecalculated current visible =>
      [("currentSectionId", textOrNull current), ("visibleSectionIds", Json.list .text visible)]
  .record (("type", Json.text e.name) :: body)

def formProgress (p : FormProgress) : Json :=
  .record [("visibleSections", Json.int p.visible), ("completedSections", Json.int p.completed),
    ("requiredSections", Json.int p.required), ("percent", number (.ofNat p.percent)),
    ("currentSectionId", textOrNull p.current?)]

end Wire

/-- The text that the state of a flow is saved as. -/
def Flow.exportStateText (flow : Flow) : String := (Wire.flowState flow.state).compact

/-- Replaces the state of a flow by a saved one, if it can be read. -/
def Flow.importStateText? (flow : Flow) (s : String) : Option Flow :=
  ((Json.read? s).bind Wire.flowState?).map flow.importState

end FormRules
