import FlowCheck.Rules.Input
import FlowCheck.Rules.Resource

/-!
# Rules for workflows

A typed workflow is checked from the outside in: its metadata, its settings, that it has resources
and names one of them as its target, that action ids are unique, that required resources exist,
and last every resource.  The first problem counts.
-/

namespace FlowCheck

/-- What can be wrong with a workflow as a whole. -/
inductive WorkflowProblem where
  | nameMissing
  | targetMissing
  | apiServerMissing
  | portOutOfRange
  | noRoutes
  | routePathMissing (route : Nat)
  | routePathNotRooted (route : Nat)
  | unknownRouteMethod (route : Nat) (name : String)
  | input (problem : InputProblem)
  | noResources
  | unknownTarget (actionId : String)
  | duplicateId (actionId : String)
  | unknownRequirement (actionId required : String)
deriving DecidableEq

namespace WorkflowProblem

def inRoute (route : Nat) (message : String) : String :=
  "route " ++ toString route ++ ": " ++ message

def message : WorkflowProblem → String
  | nameMissing => "workflow name is required"
  | targetMissing => "workflow targetActionID is required"
  | apiServerMissing => "apiServer settings required when apiServerMode is true"
  | portOutOfRange => "apiServer port must be between 1 and 65535"
  | noRoutes => "apiServer must have at least one route"
  | routePathMissing route => inRoute route "path is required"
  | routePathNotRooted route =>
    inRoute route "path must start with /. Must start with '/'. Example: '/api/users'"
  | unknownRouteMethod route name =>
    inRoute route (Rules.unknownName "HTTP method" name Options.httpMethods)
  | input problem => problem.message
  | noResources => "workflow must have at least one resource"
  | unknownTarget actionId => "target action '" ++ actionId ++ "' not found in resources"
  | duplicateId actionId => "duplicate actionID: " ++ actionId
  | unknownRequirement actionId required =>
    "resource '" ++ actionId ++ "' depends on unknown resource '" ++ required ++ "'"

end WorkflowProblem

open Rules (require needed)

/-! ## Settings -/

namespace Route

def problem? (route : Route) (position : Nat) : Option WorkflowProblem :=
  require (!route.path.isEmpty) (.routePathMissing position) <|>
    require (route.path.toList.head? == some '/') (.routePathNotRooted position) <|>
    (route.methods.find? fun m => !Options.httpMethods.allows m).map
      (.unknownRouteMethod position)

end Route

namespace ApiServer

def problem? (api : ApiServer) : Option WorkflowProblem :=
  require (1 ≤ api.portNum && api.portNum ≤ 65535) .portOutOfRange <|>
    require (!api.routes.isEmpty) .noRoutes <|>
    api.routes.zipIdx.findSome? fun r => r.1.problem? r.2

end ApiServer

namespace Settings

/-- The API server's settings matter only when it runs. -/
def problem? (s : Settings) : Option WorkflowProblem :=
  (if s.apiServerMode then needed s.apiServer .apiServerMissing ApiServer.problem? else none) <|>
    s.input.bind fun i => i.problem?.map .input

end Settings

/-! ## Workflows -/

namespace Workflow

/-- It serves web pages and has nothing to run. -/
def isWebOnly (w : Workflow) : Bool := w.settings.webServerMode && w.resources.isEmpty

def metadataProblem? (w : Workflow) : Option WorkflowProblem :=
  require (!w.metadata.name.isEmpty) .nameMissing <|>
    require (!w.metadata.targetActionId.isEmpty || w.isWebOnly) .targetMissing

def settingsProblem? (w : Workflow) : Option WorkflowProblem := w.settings.problem?

def presenceProblem? (w : Workflow) : Option WorkflowProblem :=
  require (!w.resources.isEmpty || w.settings.webServerMode) .noResources

/-- The target is one of the resources, if there are any. -/
def targetProblem? (w : Workflow) : Option WorkflowProblem :=
  require (w.resources.isEmpty || (w.resource? w.metadata.targetActionId).isSome)
    (.unknownTarget w.metadata.targetActionId)

def actionIds (w : Workflow) : List String := w.resources.map Resource.actionId

/-- The first id that was given before. -/
def firstRepeated? (before : List String) : List String → Option String
  | [] => none
  | id :: rest => if before.contains id then some id else firstRepeated? (id :: before) rest

def uniquenessProblem? (w : Workflow) : Option WorkflowProblem :=
  (firstRepeated? [] w.actionIds).map .duplicateId

/-- Every required resource exists; a resource may require itself. -/
def requirementProblem? (w : Workflow) : Option WorkflowProblem :=
  w.resources.findSome? fun r =>
    (r.metadata.requires.find? fun id => !w.actionIds.contains id).map
      (.unknownRequirement r.actionId)

/-- The first problem of the workflow as a whole. -/
def problem? (w : Workflow) : Option WorkflowProblem :=
  w.metadataProblem? <|> w.settingsProblem? <|> w.presenceProblem? <|> w.targetProblem? <|>
    w.uniquenessProblem? <|> w.requirementProblem?

/-- The first resource with a problem. -/
def resourceProblem? (w : Workflow) : Option (String × ResourceProblem) :=
  w.resources.findSome? fun r => (r.problem? (some w)).map fun p => (r.actionId, p)

end Workflow

/-! ## As faults -/

/-- Fails with the problem found, if there is one. -/
def refuse {π : Type} (asFault : π → Fault) : Option π → Except Fault Unit
  | none => .ok ()
  | some problem => .error (asFault problem)

def WorkflowProblem.toFault (p : WorkflowProblem) : Fault := .invalidWorkflow p.message

def InputProblem.toFault (p : InputProblem) : Fault := .invalidWorkflow p.message

def ResourceProblem.toFault (p : ResourceProblem) : Fault := .invalidResource p.message

namespace Workflow

/-- Accepts a workflow that satisfies every rule. -/
def check (w : Workflow) : Except Fault Unit := do
  refuse WorkflowProblem.toFault w.problem?
  refuse (fun found => .resourceFailed found.1 found.2.toFault) w.resourceProblem?

end Workflow

end FlowCheck
