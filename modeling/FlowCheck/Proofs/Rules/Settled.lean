import FlowCheck.Document
import FlowCheck.Proofs.Rules.KnownResource

/-!
# What the schema settles for the rules

The schema and the rules look at some of the same things: the paths and methods of routes, the
names that have options, the range of a sensitivity, the action ids of resources, the port.  Of a
workflow that is read from an accepted document the rules never find such a problem
(`Workflow.not_settled_of_check_eq_error`), except the port zero, which only the schema allows.
-/

namespace FlowCheck

open Rules (require_eq_some_iff needed_eq_some_iff)
open Schema (ensures_record membersEnsure_start)

/-- What can be wrong with a workflow and breaks its schema as well.  The schema allows the port
zero, and the rules do not. -/
def WorkflowProblem.IsSettled (w : Workflow) : WorkflowProblem → Prop
  | routePathMissing _ | routePathNotRooted _ | unknownRouteMethod .. => True
  | portOutOfRange => ∃ api, w.settings.apiServer = some api ∧ api.portNum ≠ 0
  | input problem => problem.IsSettled
  | _ => False

/-! ## Servers and settings -/

theorem Route.ensures : Schema.route.Ensures codec WellFormed :=
  ensures_record <|
    .list (Schema.ensures_oneOf (by simp)) rfl <|
    .needed Schema.ensures_rootedText (by simp) rfl <|
    membersEnsure_start fun _ hrooted _ hmethods => ⟨hrooted, hmethods⟩

namespace ApiServer

/-- The routes are well-formed, and the port is at most the last one of TCP. -/
structure IsKnown (api : ApiServer) : Prop where
  port : api.portNum.toNat ≤ 65535
  routes : ∀ route ∈ api.routes, route.WellFormed

theorem ensures : Schema.apiServer.Ensures codec IsKnown :=
  ensures_record <| .skip <|
    .list Route.ensures rfl <|
    .skip <|
    .member Schema.ensures_within (by decide) rfl <|
    .skip <|
    membersEnsure_start fun _ _ hport _ _ hroutes _ => ⟨Int.ofNat_le.1 hport, hroutes⟩

/-- A server of which the schema is kept has no route, or the port zero. -/
theorem problem?_eq_some {api : ApiServer} (h : api.IsKnown) {p : WorkflowProblem}
    (hp : api.problem? = some p) :
    (p = .portOutOfRange ∧ api.portNum = 0) ∨ p = .noRoutes := by
  rw [problem?, Option.orElse_eq_some, Option.orElse_eq_some] at hp
  rcases hp with hport | ⟨-, hroutes | ⟨-, hroute⟩⟩
  · obtain ⟨hrange, rfl⟩ := require_eq_some_iff.1 hport
    have hle : api.portNum ≤ 65535 := UInt32.le_iff_toNat_le.2 h.port
    have hlt : ¬ 1 ≤ api.portNum := by simpa [hle] using hrange
    refine .inl ⟨rfl, UInt32.toNat_inj.1 ?_⟩
    rw [UInt32.le_iff_toNat_le] at hlt
    simpa using hlt
  · exact .inr (require_eq_some_iff.1 hroutes).2.symm
  · obtain ⟨⟨route, i⟩, hmem, hrule⟩ := List.exists_of_findSome?_eq_some hroute
    have hnone : route.problem? i = none :=
      Route.problem?_eq_none_iff.2 (h.routes route (List.fst_mem_of_mem_zipIdx hmem))
    rw [hnone] at hrule
    contradiction

end ApiServer

namespace Settings

/-- The API server and the input keep their schemas. -/
structure IsKnown (s : Settings) : Prop where
  apiServer : ∀ api, s.apiServer = some api → api.IsKnown
  input : ∀ i, s.input = some i → i.IsKnown

theorem ensures : Schema.settings.Ensures codec IsKnown :=
  ensures_record <| .skip <| .skip <| .skip <| .skip <|
    .optional InputSettings.ensures nofun rfl <|
    .skip <|
    .optional ApiServer.ensures nofun rfl <|
    .skip <| .skip <| .skip <| .skip <|
    membersEnsure_start fun _ _ _ _ _ hserver _ _ hinput _ _ _ _ => ⟨hserver, hinput⟩

/-- Settings that are left out have neither. -/
theorem isKnown_default : IsKnown {} where
  apiServer _ h := by contradiction
  input _ h := by contradiction

end Settings

/-! ## Workflows -/

namespace Workflow

/-- The settings and the resources keep their schemas. -/
structure IsKnown (w : Workflow) : Prop where
  settings : w.settings.IsKnown
  resources : ∀ r ∈ w.resources, r.IsKnown

/-- What is read from an accepted document keeps the schemas. -/
theorem ensures : DocumentKind.workflow.wholeSchema.Ensures codec IsKnown :=
  ensures_record <|
    .list Resource.ensures rfl <|
    .member Settings.ensures Settings.isKnown_default rfl <|
    .skip <| .skip <| .skip <|
    membersEnsure_start fun _ _ _ _ hsettings _ hresources => ⟨hsettings, hresources⟩

theorem problem?_not_settled {w : Workflow} (h : w.IsKnown) {p : WorkflowProblem}
    (hp : w.problem? = some p) : ¬ p.IsSettled w := by
  simp only [problem?, Option.orElse_eq_some] at hp
  rcases hp with hmetadata | ⟨-, hsettings | ⟨-, hpresence | ⟨-, htarget | ⟨-, hunique | ⟨-,
    hrequirement⟩⟩⟩⟩⟩
  · rcases (Option.orElse_eq_some _ _ _).1 hmetadata with hname | ⟨-, htarget⟩
    · obtain ⟨-, rfl⟩ := require_eq_some_iff.1 hname
      exact id
    · obtain ⟨-, rfl⟩ := require_eq_some_iff.1 htarget
      exact id
  · rcases (Option.orElse_eq_some _ _ _).1 hsettings with hserver | ⟨-, hinput⟩
    · split at hserver
      · rcases needed_eq_some_iff.1 hserver with ⟨-, rfl⟩ | ⟨api, hapi, hrule⟩
        · exact id
        · rcases (api.problem?_eq_some (h.settings.apiServer api hapi) hrule) with
            ⟨rfl, hport⟩ | rfl
          · rintro ⟨api', hapi', hne⟩
            obtain rfl : api = api' := Option.some.inj (hapi.symm.trans hapi')
            exact hne hport
          · exact id
      · contradiction
    · obtain ⟨i, hi, hmap⟩ := Option.bind_eq_some_iff.1 hinput
      obtain ⟨q, hq, rfl⟩ := Option.map_eq_some_iff.1 hmap
      exact InputSettings.problem?_not_settled (h.settings.input i hi) hq
  · obtain ⟨-, rfl⟩ := require_eq_some_iff.1 hpresence
    exact id
  · obtain ⟨-, rfl⟩ := require_eq_some_iff.1 htarget
    exact id
  · obtain ⟨id, -, rfl⟩ := Option.map_eq_some_iff.1 hunique
    exact fun h => h
  · obtain ⟨r, -, hrule⟩ := List.exists_of_findSome?_eq_some hrequirement
    obtain ⟨required, -, rfl⟩ := Option.map_eq_some_iff.1 hrule
    exact id

theorem resourceProblem?_not_settled {w : Workflow} (h : w.IsKnown) {id : String}
    {p : ResourceProblem} (hp : w.resourceProblem? = some (id, p)) : ¬ p.IsSettled := by
  obtain ⟨r, hr, hrule⟩ := List.exists_of_findSome?_eq_some hp
  obtain ⟨q, hq, heq⟩ := Option.map_eq_some_iff.1 hrule
  obtain rfl : q = p := (Prod.mk.inj heq).2
  exact Resource.problem?_not_settled (h.resources r hr) hq

/-- When the check of a workflow from an accepted document fails, then with a problem that the
schema does not settle. -/
theorem not_settled_of_check_eq_error {doc : Json} {w : Workflow} {fault : Fault}
    (hdoc : DocumentKind.workflow.check doc = .ok ())
    (hread : codec.read .inPlace doc = .ok w) (hcheck : w.check = .error fault) :
    (∃ p, w.problem? = some p ∧ fault = p.toFault ∧ ¬ p.IsSettled w) ∨
      (w.problem? = none ∧ ∃ id p, w.resourceProblem? = some (id, p) ∧
        fault = .resourceFailed id p.toFault ∧ ¬ p.IsSettled) := by
  have hknown := ensures (DocumentKind.check_eq_ok_iff_allows.1 hdoc) hread
  rcases check_eq_error_iff.1 hcheck with ⟨p, hp, rfl⟩ | ⟨hnone, id, p, hp, rfl⟩
  · exact .inl ⟨p, hp, rfl, problem?_not_settled hknown hp⟩
  · exact .inr ⟨hnone, id, p, hp, rfl, resourceProblem?_not_settled hknown hp⟩

/-- A document whose API server asks for the port zero, with a route, a microphone and a chat. -/
def portZero : Json :=
  .obj [("apiVersion", .str "kdeps.io/v1"), ("kind", .str "Workflow"),
    ("metadata", .obj [("name", .str "demo"), ("targetActionId", .str "ask")]),
    ("resources", .arr [.obj [
      ("metadata", .obj [("actionId", .str "ask"), ("name", .str "Ask")]),
      ("run", .obj [("chat", .obj [("backend", .str "openai"), ("model", .str "m"),
        ("prompt", .str "p")])])]]),
    ("settings", .obj [
      ("apiServer", .obj [("portNum", .int 0), ("routes", .arr [.obj [
        ("methods", .arr [.str "GET"]), ("path", .str "/")]])]),
      ("apiServerMode", .bool true),
      ("input", .obj [("sources", .arr [.str "audio"]),
        ("transcriber", .obj [("mode", .str "offline"), ("output", .str "text")])])])]

/-- The workflow of `portZero`. -/
def portZeroWorkflow : Workflow where
  apiVersion := "kdeps.io/v1"
  kind := "Workflow"
  metadata := { name := "demo", targetActionId := "ask" }
  settings :=
    { apiServerMode := true
      apiServer := some { portNum := 0, routes := [{ path := "/", methods := ["GET"] }] }
      input := some { sources := ["audio"]
                      transcriber := some { mode := "offline", output := some "text" } } }
  resources := [{
    metadata := { actionId := "ask", name := "Ask" }
    run := { primary := some (.chat { model := "m", backend := some "openai", prompt := "p" }) } }]

theorem portZero_not_settled :
    DocumentKind.workflow.check portZero = .ok () ∧
      codec.read .inPlace portZero = .ok portZeroWorkflow ∧
      portZeroWorkflow.check = .error WorkflowProblem.portOutOfRange.toFault ∧
      ¬ WorkflowProblem.portOutOfRange.IsSettled portZeroWorkflow := by
  have hdoc : DocumentKind.workflow.check portZero = .ok () := rfl
  have hread : codec.read .inPlace portZero = .ok portZeroWorkflow := rfl
  have hcheck : portZeroWorkflow.check = .error WorkflowProblem.portOutOfRange.toFault := rfl
  refine ⟨hdoc, hread, hcheck, ?_⟩
  rcases not_settled_of_check_eq_error hdoc hread hcheck with ⟨p, hp, -, hnot⟩ | ⟨hnone, -⟩
  · obtain rfl : WorkflowProblem.portOutOfRange = p := Option.some.inj hp
    exact hnot
  · contradiction

end Workflow
end FlowCheck
