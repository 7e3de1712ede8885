import FlowCheck.Rules.Workflow
import Mathlib.Data.List.Nodup
import Mathlib.Data.Option.Basic

/-!
# Which workflows are accepted

The rules of a workflow, written down as one list of conditions without an order
(`Workflow.WellFormed`), are what the check decides (`Workflow.check_eq_ok_iff`).  Every rule is
first compared with its condition: it finds no problem exactly when the condition holds.

Two things follow for an accepted workflow.  What a resource requires is one resource
(`Workflow.requirement_exists_unique`), and the target is one of the resources, except where web
pages are served and there are no resources (`Workflow.accepted_without_target_iff`).
-/

namespace FlowCheck

open Rules (require needed)

/-- Texts are meant by themselves only. -/
theorem Options.allows_ofTexts_iff {texts : List String} {m : String} :
    (Options.ofTexts texts).allows m = true ↔ m ∈ texts := by
  simp [Options.ofTexts, Options.allows, EnumOption.isMeantBy]

theorem Options.allows_httpMethods_iff {m : String} :
    Options.httpMethods.allows m = true ↔ m ∈ ["GET", "POST", "PUT", "DELETE", "PATCH"] :=
  Options.allows_ofTexts_iff

/-! ## The API server -/

namespace Route

/-- The path starts at the root, and the methods are known. -/
structure WellFormed (route : Route) : Prop where
  rooted : route.path.toList.head? = some '/'
  methods : ∀ m ∈ route.methods, m ∈ ["GET", "POST", "PUT", "DELETE", "PATCH"]

theorem problem?_eq_none_iff {route : Route} {position : Nat} :
    route.problem? position = none ↔ route.WellFormed := by
  unfold problem?
  rw [Option.orElse_eq_none, Option.orElse_eq_none, Rules.require_eq_none, Rules.require_eq_none,
    Option.map_eq_none_iff, List.find?_eq_none]
  constructor
  · rintro ⟨-, hroot, hmethods⟩
    refine ⟨by simpa using hroot, fun m hm => Options.allows_httpMethods_iff.1 ?_⟩
    simpa using hmethods m hm
  · rintro ⟨hroot, hmethods⟩
    have hpath : route.path ≠ "" := fun hempty => by simp [hempty] at hroot
    refine ⟨by simpa using hpath, by simpa using hroot, fun m hm => ?_⟩
    simpa using Options.allows_httpMethods_iff.2 (hmethods m hm)

theorem no_problem_in_zipIdx_iff {routes : List Route} :
    (∀ r ∈ routes.zipIdx, r.1.problem? r.2 = none) ↔ ∀ route ∈ routes, route.WellFormed := by
  constructor
  · intro h route hmem
    obtain ⟨i, hi⟩ := List.getElem?_of_mem hmem
    exact problem?_eq_none_iff.1 (h (route, i) (List.mk_mem_zipIdx_iff_getElem?.2 hi))
  · rintro h ⟨route, i⟩ hmem
    exact problem?_eq_none_iff.2 (h route (List.fst_mem_of_mem_zipIdx hmem))

end Route

namespace ApiServer

/-- The port is one of TCP's, and there are routes, which are well-formed. -/
structure WellFormed (api : ApiServer) : Prop where
  port : 1 ≤ api.portNum.toNat ∧ api.portNum.toNat ≤ 65535
  routes_ne_nil : api.routes ≠ []
  routes : ∀ route ∈ api.routes, route.WellFormed

theorem problem?_eq_none_iff {api : ApiServer} : api.problem? = none ↔ api.WellFormed := by
  unfold problem?
  rw [Option.orElse_eq_none, Option.orElse_eq_none, Rules.require_eq_none, Rules.require_eq_none,
    List.findSome?_eq_none_iff, Route.no_problem_in_zipIdx_iff, Bool.and_eq_true,
    decide_eq_true_iff, decide_eq_true_iff, UInt32.le_iff_toNat_le, UInt32.le_iff_toNat_le]
  constructor
  · rintro ⟨hport, hne, hall⟩
    exact ⟨hport, by simpa using hne, hall⟩
  · rintro ⟨hport, hne, hall⟩
    exact ⟨hport, by simpa using hne, hall⟩

end ApiServer

namespace Settings

/-- Only an API server that runs is looked at. -/
theorem no_server_problem_iff {s : Settings} :
    (if s.apiServerMode then needed s.apiServer .apiServerMissing ApiServer.problem?
      else none) = none ↔
      (s.apiServerMode = true → ∃ api, s.apiServer = some api ∧ api.WellFormed) := by
  by_cases hmode : s.apiServerMode = true
  · simp [hmode, ApiServer.problem?_eq_none_iff]
  · simp [hmode]

theorem problem?_eq_none_iff {s : Settings} : s.problem? = none ↔
    (s.apiServerMode = true → ∃ api, s.apiServer = some api ∧ api.WellFormed) ∧
      ∀ i, s.input = some i → i.problem? = none := by
  rw [problem?, Option.orElse_eq_none, no_server_problem_iff, Option.bind_eq_none_iff]
  simp only [Option.map_eq_none_iff]

end Settings

/-! ## Workflows -/

namespace Workflow

/-- What the check asks of a workflow. -/
structure WellFormed (w : Workflow) : Prop where
  named : w.metadata.name ≠ ""
  target_named : w.metadata.targetActionId ≠ "" ∨
    (w.settings.webServerMode = true ∧ w.resources = [])
  api_server : w.settings.apiServerMode = true →
    ∃ api, w.settings.apiServer = some api ∧ api.WellFormed
  input : ∀ i, w.settings.input = some i → i.problem? = none
  resources_present : w.resources ≠ [] ∨ w.settings.webServerMode = true
  target_found : w.resources ≠ [] →
    ∃ r ∈ w.resources, r.actionId = w.metadata.targetActionId
  ids_distinct : w.resources.Pairwise fun r s => r.actionId ≠ s.actionId
  requirements_found : ∀ r ∈ w.resources, ∀ id ∈ r.metadata.requires,
    ∃ s ∈ w.resources, s.actionId = id
  resources : ∀ r ∈ w.resources, r.problem? (some w) = none

theorem metadataProblem?_eq_none_iff {w : Workflow} : w.metadataProblem? = none ↔
    w.metadata.name ≠ "" ∧ (w.metadata.targetActionId ≠ "" ∨
      (w.settings.webServerMode = true ∧ w.resources = [])) := by
  unfold metadataProblem? isWebOnly
  rw [Option.orElse_eq_none, Rules.require_eq_none, Rules.require_eq_none]
  simp

theorem presenceProblem?_eq_none_iff {w : Workflow} : w.presenceProblem? = none ↔
    w.resources ≠ [] ∨ w.settings.webServerMode = true := by
  unfold presenceProblem?
  rw [Rules.require_eq_none]
  simp

theorem targetProblem?_eq_none_iff {w : Workflow} : w.targetProblem? = none ↔
    (w.resources ≠ [] → ∃ r ∈ w.resources, r.actionId = w.metadata.targetActionId) := by
  unfold targetProblem? resource?
  rw [Rules.require_eq_none]
  by_cases hnil : w.resources = [] <;> simp [hnil]

/-- No id is repeated when the ids differ from those before and from each other. -/
theorem firstRepeated?_eq_none_iff {before ids : List String} :
    firstRepeated? before ids = none ↔ ids.Nodup ∧ ∀ id ∈ ids, id ∉ before := by
  induction ids generalizing before with
  | nil => simp [firstRepeated?]
  | cons id ids ih =>
    rw [firstRepeated?]
    by_cases hmem : id ∈ before
    · simp [hmem]
    · simp only [List.contains_eq_mem, hmem, decide_false, Bool.false_eq_true, if_false, ih,
        List.nodup_cons, List.mem_cons, not_or, forall_eq_or_imp]
      constructor
      · rintro ⟨hnodup, hall⟩
        exact ⟨⟨fun h => (hall id h).1 rfl, hnodup⟩, not_false, fun x hx => (hall x hx).2⟩
      · rintro ⟨⟨hnot, hnodup⟩, -, hall⟩
        exact ⟨hnodup, fun x hx => ⟨fun heq => hnot (heq ▸ hx), hall x hx⟩⟩

theorem uniquenessProblem?_eq_none_iff {w : Workflow} : w.uniquenessProblem? = none ↔
    w.resources.Pairwise fun r s => r.actionId ≠ s.actionId := by
  unfold uniquenessProblem? actionIds
  rw [Option.map_eq_none_iff, firstRepeated?_eq_none_iff, List.Nodup, List.pairwise_map]
  simp

theorem mem_actionIds_iff {w : Workflow} {id : String} :
    id ∈ w.actionIds ↔ ∃ r ∈ w.resources, r.actionId = id :=
  List.mem_map

theorem requirementProblem?_eq_none_iff {w : Workflow} : w.requirementProblem? = none ↔
    ∀ r ∈ w.resources, ∀ id ∈ r.metadata.requires, ∃ s ∈ w.resources, s.actionId = id := by
  unfold requirementProblem?
  simp only [List.findSome?_eq_none_iff, Option.map_eq_none_iff, List.find?_eq_none,
    List.contains_eq_mem, Bool.not_eq_true', Bool.not_eq_false, decide_eq_true_eq,
    mem_actionIds_iff]

theorem resourceProblem?_eq_none_iff {w : Workflow} : w.resourceProblem? = none ↔
    ∀ r ∈ w.resources, r.problem? (some w) = none := by
  unfold resourceProblem?
  simp only [List.findSome?_eq_none_iff, Option.map_eq_none_iff]

theorem check_eq_ok_iff_no_problem {w : Workflow} :
    w.check = .ok () ↔ w.problem? = none ∧ w.resourceProblem? = none := by
  unfold check
  cases w.problem? <;> cases w.resourceProblem? <;> simp [refuse, bind, Except.bind]

/-- The check of a workflow fails with its first problem. -/
theorem check_eq_error_iff {w : Workflow} {fault : Fault} : w.check = .error fault ↔
    (∃ p, w.problem? = some p ∧ fault = p.toFault) ∨
      (w.problem? = none ∧ ∃ id p, w.resourceProblem? = some (id, p) ∧
        fault = .resourceFailed id p.toFault) := by
  unfold check
  cases w.problem? with
  | some p => simp [refuse, bind, Except.bind, eq_comm]
  | none =>
    cases w.resourceProblem? with
    | some found => simp [refuse, bind, Except.bind, Prod.ext_iff, eq_comm]
    | none => simp [refuse, bind, Except.bind]

theorem no_problem_iff_wellFormed {w : Workflow} :
    w.problem? = none ∧ w.resourceProblem? = none ↔ w.WellFormed := by
  rw [problem?]
  simp only [Option.orElse_eq_none, metadataProblem?_eq_none_iff, settingsProblem?,
    Settings.problem?_eq_none_iff, presenceProblem?_eq_none_iff, targetProblem?_eq_none_iff,
    uniquenessProblem?_eq_none_iff, requirementProblem?_eq_none_iff,
    resourceProblem?_eq_none_iff]
  constructor
  · rintro ⟨⟨⟨hname, htarget⟩, ⟨hserver, hinput⟩, hpresent, hfound, hdistinct, hrequired⟩, hall⟩
    exact ⟨hname, htarget, hserver, hinput, hpresent, hfound, hdistinct, hrequired, hall⟩
  · rintro ⟨hname, htarget, hserver, hinput, hpresent, hfound, hdistinct, hrequired, hall⟩
    exact ⟨⟨⟨hname, htarget⟩, ⟨hserver, hinput⟩, hpresent, hfound, hdistinct, hrequired⟩, hall⟩

/-- The check accepts the well-formed workflows and no others. -/
theorem check_eq_ok_iff_wellFormed (w : Workflow) : w.check = .ok () ↔ w.WellFormed := by
  rw [check_eq_ok_iff_no_problem, no_problem_iff_wellFormed]

/-! ## Requirements -/

/-- An action id stands at one position only. -/
theorem WellFormed.eq_of_actionId_eq {w : Workflow} (h : w.WellFormed)
    {i j : Fin w.resources.length} (hid : w.resources[i].actionId = w.resources[j].actionId) :
    i = j := by
  have hpair := List.pairwise_iff_getElem.1 h.ids_distinct
  rcases Nat.lt_trichotomy i j with hlt | heq | hlt
  · exact absurd hid (hpair i j i.isLt j.isLt hlt)
  · exact Fin.ext heq
  · exact absurd hid.symm (hpair j i j.isLt i.isLt hlt)

/-- What a resource of an accepted workflow requires is the action id of one of its resources, and
of one only; it is another one unless the resource requires itself. -/
theorem requirement_exists_unique {w : Workflow} (h : w.check = .ok ())
    (i : Fin w.resources.length) {id : String} (hid : id ∈ w.resources[i].metadata.requires) :
    ∃ j : Fin w.resources.length, w.resources[j].actionId = id ∧
      (∀ k : Fin w.resources.length, w.resources[k].actionId = id → k = j) ∧
      (j ≠ i ↔ id ≠ w.resources[i].actionId) := by
  have hw := no_problem_iff_wellFormed.1 (check_eq_ok_iff_no_problem.1 h)
  obtain ⟨s, hs, rfl⟩ := hw.requirements_found _ (List.getElem_mem i.isLt) id hid
  obtain ⟨j, hj, rfl⟩ := List.getElem_of_mem hs
  refine ⟨⟨j, hj⟩, rfl, fun k hk => hw.eq_of_actionId_eq hk, not_congr ⟨?_, fun heq => ?_⟩⟩
  · rintro rfl
    rfl
  · exact hw.eq_of_actionId_eq heq

/-- A workflow of two resources, of which the first requires the other one and itself. -/
def selfRequiring : Workflow where
  metadata := { name := "loop", targetActionId := "a" }
  resources := [
    { metadata := { actionId := "a", name := "A", requires := ["b", "a"] }
      run := { primary := some (.exec { command := "true" }) } },
    { metadata := { actionId := "b", name := "B" }
      run := { primary := some (.exec { command := "true" }) } }]

/-- The position of the resource that requires itself. -/
def selfRequiring.first : Fin selfRequiring.resources.length := ⟨0, by decide⟩

theorem requirement_exists_unique_selfRequiring :
    selfRequiring.check = .ok () ∧
      "b" ∈ selfRequiring.resources[selfRequiring.first].metadata.requires ∧
      ∃ j : Fin selfRequiring.resources.length, selfRequiring.resources[j].actionId = "b" ∧
        (∀ k : Fin selfRequiring.resources.length,
          selfRequiring.resources[k].actionId = "b" → k = j) ∧
        (j ≠ selfRequiring.first ↔
          "b" ≠ selfRequiring.resources[selfRequiring.first].actionId) := by
  have hcheck : selfRequiring.check = .ok () := rfl
  have hrequires : "b" ∈ selfRequiring.resources[selfRequiring.first].metadata.requires := by
    decide
  exact ⟨hcheck, hrequires, requirement_exists_unique hcheck selfRequiring.first hrequires⟩

/-- No resource but the first has the id that the first one requires. -/
theorem selfRequiring_accepted :
    selfRequiring.check = .ok () ∧
      "a" ∈ selfRequiring.resources[selfRequiring.first].metadata.requires ∧
      ¬ ∃ j : Fin selfRequiring.resources.length,
        j ≠ selfRequiring.first ∧ selfRequiring.resources[j].actionId = "a" :=
  ⟨rfl, by decide, by decide⟩

/-! ## The target -/

/-- The target is one of the resources. -/
def HasTarget (w : Workflow) : Prop := ∃ r ∈ w.resources, r.actionId = w.metadata.targetActionId

theorem HasTarget.resources_ne_nil {w : Workflow} (h : w.HasTarget) : w.resources ≠ [] := by
  obtain ⟨r, hr, -⟩ := h
  exact List.ne_nil_of_mem hr

/-- Without resources there is less to be right about: nothing is required, and nothing is named. -/
theorem wellFormed_iff_of_resources_eq_nil {w : Workflow} (h : w.resources = []) :
    w.WellFormed ↔ w.settings.webServerMode = true ∧ w.metadata.name ≠ "" ∧
      (w.settings.apiServerMode = true → ∃ api, w.settings.apiServer = some api ∧ api.WellFormed) ∧
      ∀ i, w.settings.input = some i → i.problem? = none := by
  constructor
  · intro hw
    exact ⟨hw.resources_present.resolve_left (absurd h), hw.named, hw.api_server, hw.input⟩
  · rintro ⟨hmode, hname, hserver, hinput⟩
    exact {
      named := hname
      target_named := .inr ⟨hmode, h⟩
      api_server := hserver
      input := hinput
      resources_present := .inr hmode
      target_found := absurd h
      ids_distinct := by simp [h]
      requirements_found := by simp [h]
      resources := by simp [h] }

/-- A workflow is accepted whose target is no resource exactly when it has no resources at all,
serves web pages, is named, and its settings are right.  Whether it serves an API as well does not
matter, as long as the API server is set up. -/
theorem accepted_without_target_iff {w : Workflow} :
    w.check = .ok () ∧ ¬ w.HasTarget ↔
      w.resources = [] ∧ w.settings.webServerMode = true ∧ w.metadata.name ≠ "" ∧
        (w.settings.apiServerMode = true →
          ∃ api, w.settings.apiServer = some api ∧ api.WellFormed) ∧
        ∀ i, w.settings.input = some i → i.problem? = none := by
  rw [check_eq_ok_iff_no_problem, no_problem_iff_wellFormed]
  constructor
  · rintro ⟨hw, hnone⟩
    have hnil : w.resources = [] := by
      by_contra hne
      exact hnone (hw.target_found hne)
    exact ⟨hnil, (wellFormed_iff_of_resources_eq_nil hnil).1 hw⟩
  · rintro ⟨hnil, hrest⟩
    exact ⟨(wellFormed_iff_of_resources_eq_nil hnil).2 hrest,
      fun htarget => htarget.resources_ne_nil hnil⟩

/-- A workflow that serves an API with one route as well as web pages, and has nothing to run. -/
def servingNothing : Workflow where
  metadata := { name := "empty", targetActionId := "ask" }
  settings :=
    { apiServerMode := true
      webServerMode := true
      apiServer := some { portNum := 3000, routes := [{ path := "/ask", methods := ["GET"] }] } }

theorem servingNothing_accepted :
    servingNothing.check = .ok () ∧ servingNothing.settings.apiServerMode = true ∧
      servingNothing.resources = [] ∧ ¬ servingNothing.HasTarget :=
  ⟨rfl, rfl, rfl, fun h => h.resources_ne_nil rfl⟩

end Workflow
end FlowCheck
