import FlowCheck.Proofs.Rules.Workflow

/-!
# The problem that a workflow is refused for

Checks are made one after the other, and the first that finds a problem decides.  What a check finds
is described by relations that name the place in the document: the first route that is not
well-formed, the first action id that was given before, the first requirement that is not there
(`WorkflowCheck.Finds`).  A workflow is refused for what the first failing check finds or, when none
fails, for the first resource with a problem, whose action id is then the id of no other
(`Workflow.check_eq_error_iff_first`).
-/

namespace FlowCheck

open Rules (require needed require_eq_some_iff needed_eq_some_iff)

/-! ## Searching a row -/

theorem findSome?_cons_eq_or {α β : Type} {f : α → Option β} {a : α} {row : List α} :
    (a :: row).findSome? f = (f a).or (row.findSome? f) := by
  rw [List.findSome?_cons]
  cases f a <;> rfl

/-- A place in a row that is not empty is its head, or is a place in its tail. -/
theorem exists_place_cons_iff {α : Type} {P : List α → Prop} {a b : α} {row : List α} :
    (∃ before after, a :: row = before ++ b :: after ∧ P before) ↔
      (a = b ∧ P []) ∨ ∃ before after, row = before ++ b :: after ∧ P (a :: before) := by
  constructor
  · rintro ⟨before, after, hrow, h⟩
    cases before with
    | nil => exact .inl ⟨(List.cons.inj hrow).1, h⟩
    | cons c before =>
      obtain ⟨rfl, htail⟩ := List.cons.inj hrow
      exact .inr ⟨before, after, htail, h⟩
  · rintro (⟨rfl, h⟩ | ⟨before, after, rfl, h⟩)
    · exact ⟨[], row, rfl, h⟩
    · exact ⟨a :: before, after, rfl, h⟩

/-- What is found in a row with positions is found at its first place. -/
theorem findSome?_zipIdx_eq_some_iff {α β : Type} {f : α × Nat → Option β} {row : List α}
    {b : β} : row.zipIdx.findSome? f = some b ↔ ∃ before a after, row = before ++ a :: after ∧
      f (a, before.length) = some b ∧ ∀ x ∈ before.zipIdx, f x = none := by
  rw [List.findSome?_eq_some_iff]
  constructor
  · rintro ⟨_, _, _, hrow, hfound, hbefore⟩
    obtain ⟨before, rest, rfl, rfl, hrest⟩ := List.zipIdx_eq_append_iff.1 hrow
    obtain ⟨a, after, rfl, rfl, rfl⟩ := List.zipIdx_eq_cons_iff.1 hrest.symm
    rw [Nat.zero_add] at hfound
    exact ⟨before, a, after, rfl, hfound, hbefore⟩
  · rintro ⟨before, a, after, rfl, hfound, hbefore⟩
    refine ⟨before.zipIdx, (a, before.length), after.zipIdx (before.length + 1), ?_, hfound,
      hbefore⟩
    rw [List.zipIdx_append, List.zipIdx_cons, Nat.zero_add]

/-! ## Servers -/

namespace Route

/-- What is wrong with a route, of its path first and then of its first unknown method. -/
inductive Finds (route : Route) (position : Nat) : WorkflowProblem → Prop
  | pathMissing (h : route.path = "") : Finds route position (.routePathMissing position)
  | pathNotRooted (hpath : route.path ≠ "") (h : route.path.toList.head? ≠ some '/') :
      Finds route position (.routePathNotRooted position)
  | unknownMethod {known others : List String} {name : String}
      (hrooted : route.path.toList.head? = some '/')
      (hmethods : route.methods = known ++ name :: others)
      (hknown : ∀ m ∈ known, m ∈ ["GET", "POST", "PUT", "DELETE", "PATCH"])
      (h : name ∉ ["GET", "POST", "PUT", "DELETE", "PATCH"]) :
      Finds route position (.unknownRouteMethod position name)

variable {route : Route} {position : Nat} {p : WorkflowProblem}

/-- The first unknown method of a row. -/
theorem find?_unknown_eq_some_iff {methods : List String} {name : String} :
    (methods.find? fun m => !Options.httpMethods.allows m) = some name ↔
      name ∉ ["GET", "POST", "PUT", "DELETE", "PATCH"] ∧ ∃ known others,
        methods = known ++ name :: others ∧
          ∀ m ∈ known, m ∈ ["GET", "POST", "PUT", "DELETE", "PATCH"] := by
  simp only [List.find?_eq_some_iff_append, ← Options.allows_httpMethods_iff, Bool.not_not,
    Bool.not_eq_true', Bool.not_eq_true]

theorem finds_iff : route.Finds position p ↔ route.problem? position = some p := by
  have hpath : (!route.path.isEmpty) = false ↔ route.path = "" := by simp
  have hroot : (route.path.toList.head? == some '/') = false ↔
      route.path.toList.head? ≠ some '/' := by simp
  rw [problem?, Option.orElse_eq_some, Option.orElse_eq_some, require_eq_some_iff,
    require_eq_some_iff, Rules.require_eq_none, Rules.require_eq_none, ← Bool.not_eq_false, hpath,
    ← Bool.not_eq_false (_ == _), hroot, not_not, Option.map_eq_some_iff]
  simp only [find?_unknown_eq_some_iff]
  constructor
  · rintro (h | ⟨hpath, h⟩ | ⟨hrooted, hmethods, hknown, h⟩)
    · exact .inl ⟨h, rfl⟩
    · exact .inr ⟨hpath, .inl ⟨h, rfl⟩⟩
    · have hne : route.path ≠ "" := fun hempty => by simp [hempty] at hrooted
      exact .inr ⟨hne, .inr ⟨hrooted, _, ⟨h, _, _, hmethods, hknown⟩, rfl⟩⟩
  · rintro (⟨h, rfl⟩ | ⟨hpath, ⟨h, rfl⟩ | ⟨hrooted, _, ⟨h, _, _, hmethods, hknown⟩, rfl⟩⟩)
    · exact .pathMissing h
    · exact .pathNotRooted hpath h
    · exact .unknownMethod hrooted hmethods hknown h

end Route

namespace ApiServer

/-- What is wrong with an API server: its port, or that it has no routes, or what is wrong with the
first route that is not well-formed. -/
inductive Finds (api : ApiServer) : WorkflowProblem → Prop
  | portOutOfRange (h : ¬ (1 ≤ api.portNum.toNat ∧ api.portNum.toNat ≤ 65535)) :
      Finds api .portOutOfRange
  | noRoutes (hport : 1 ≤ api.portNum.toNat ∧ api.portNum.toNat ≤ 65535) (h : api.routes = []) :
      Finds api .noRoutes
  | route {before after : List Route} {route : Route} {p : WorkflowProblem}
      (hport : 1 ≤ api.portNum.toNat ∧ api.portNum.toNat ≤ 65535)
      (hroutes : api.routes = before ++ route :: after) (hbefore : ∀ r ∈ before, r.WellFormed)
      (h : route.Finds before.length p) : Finds api p

variable {api : ApiServer} {p : WorkflowProblem}

theorem finds_iff : api.Finds p ↔ api.problem? = some p := by
  have hport : (1 ≤ api.portNum && api.portNum ≤ 65535) = true ↔
      1 ≤ api.portNum.toNat ∧ api.portNum.toNat ≤ 65535 := by
    simp [UInt32.le_iff_toNat_le]
  rw [problem?, Option.orElse_eq_some, Option.orElse_eq_some, require_eq_some_iff,
    require_eq_some_iff, Rules.require_eq_none, Rules.require_eq_none, hport, ← Bool.not_eq_true,
    hport, findSome?_zipIdx_eq_some_iff]
  simp only [Route.no_problem_in_zipIdx_iff, ← Route.finds_iff]
  constructor
  · rintro (h | ⟨hport, h⟩ | ⟨hport, hroutes, hbefore, h⟩)
    · exact .inl ⟨h, rfl⟩
    · exact .inr ⟨hport, .inl ⟨by simp [h], rfl⟩⟩
    · exact .inr ⟨hport, .inr ⟨by simp [hroutes], _, _, _, hroutes, h, hbefore⟩⟩
  · rintro (⟨h, rfl⟩ | ⟨hport, ⟨h, rfl⟩ | ⟨-, before, route, after, hroutes, h, hbefore⟩⟩)
    · exact .portOutOfRange h
    · exact .noRoutes hport (by simpa using h)
    · exact .route hport hroutes hbefore h

end ApiServer

/-! ## Checks -/

/-- The checks of a workflow as a whole. -/
inductive WorkflowCheck where
  | metadata | settings | presence | target | uniqueness | requirements

namespace WorkflowCheck

/-- The checks in the order in which they are made. -/
def order : List WorkflowCheck :=
  [metadata, settings, presence, target, uniqueness, requirements]

/-- What a check finds wrong with a workflow. -/
def problem? (w : Workflow) : WorkflowCheck → Option WorkflowProblem
  | metadata => w.metadataProblem?
  | settings => w.settingsProblem?
  | presence => w.presenceProblem?
  | target => w.targetProblem?
  | uniqueness => w.uniquenessProblem?
  | requirements => w.requirementProblem?

/-- What a check finds, at the first place in the document where there is something to find. -/
inductive Finds (w : Workflow) : WorkflowCheck → WorkflowProblem → Prop
  | nameMissing (h : w.metadata.name = "") : Finds w metadata .nameMissing
  | targetMissing (hname : w.metadata.name ≠ "") (h : w.metadata.targetActionId = "")
      (hserved : ¬ (w.settings.webServerMode = true ∧ w.resources = [])) :
      Finds w metadata .targetMissing
  | apiServerMissing (hmode : w.settings.apiServerMode = true) (h : w.settings.apiServer = none) :
      Finds w settings .apiServerMissing
  | apiServer {api : ApiServer} {p : WorkflowProblem} (hmode : w.settings.apiServerMode = true)
      (hserver : w.settings.apiServer = some api) (h : api.Finds p) : Finds w settings p
  | input {input : InputSettings} {p : InputProblem}
      (hserver : w.settings.apiServerMode = true →
        ∃ api, w.settings.apiServer = some api ∧ api.WellFormed)
      (hinput : w.settings.input = some input) (h : input.problem? = some p) :
      Finds w settings (.input p)
  | noResources (h : w.resources = []) (hmode : w.settings.webServerMode = false) :
      Finds w presence .noResources
  | unknownTarget (hne : w.resources ≠ [])
      (h : ∀ r ∈ w.resources, r.actionId ≠ w.metadata.targetActionId) :
      Finds w target (.unknownTarget w.metadata.targetActionId)
  | duplicateId {before after : List String} {id : String}
      (hids : w.actionIds = before ++ id :: after) (hbefore : before.Nodup) (h : id ∈ before) :
      Finds w uniqueness (.duplicateId id)
  | unknownRequirement {before after : List Resource} {r : Resource} {known others : List String}
      {id : String} (hresources : w.resources = before ++ r :: after)
      (hbefore : ∀ s ∈ before, ∀ x ∈ s.metadata.requires, x ∈ w.actionIds)
      (hrequires : r.metadata.requires = known ++ id :: others)
      (hknown : ∀ x ∈ known, x ∈ w.actionIds) (h : id ∉ w.actionIds) :
      Finds w requirements (.unknownRequirement r.actionId id)

/-- A check that finds nothing. -/
def Passes (check : WorkflowCheck) (w : Workflow) : Prop := ∀ p, ¬ check.Finds w p

variable {w : Workflow} {c : WorkflowCheck} {p : WorkflowProblem}

theorem metadata_finds_iff : metadata.Finds w p ↔ w.metadataProblem? = some p := by
  have hserved : (!w.metadata.targetActionId.isEmpty || w.isWebOnly) = false ↔
      w.metadata.targetActionId = "" ∧
        ¬ (w.settings.webServerMode = true ∧ w.resources = []) := by
    simp [Workflow.isWebOnly]
  rw [Workflow.metadataProblem?, Option.orElse_eq_some, require_eq_some_iff, require_eq_some_iff,
    Rules.require_eq_none, hserved]
  constructor
  · intro hfinds
    cases hfinds with
    | nameMissing h => exact .inl ⟨by simp [h], rfl⟩
    | targetMissing hname h hserved => exact .inr ⟨by simpa using hname, ⟨h, hserved⟩, rfl⟩
  · rintro (⟨h, rfl⟩ | ⟨hname, ⟨h, hserved⟩, rfl⟩)
    · exact .nameMissing (by simpa using h)
    · exact .targetMissing (by simpa using hname) h hserved

theorem settings_finds_iff : settings.Finds w p ↔ w.settingsProblem? = some p := by
  rw [Workflow.settingsProblem?, Settings.problem?, Option.orElse_eq_some,
    Settings.no_server_problem_iff]
  simp only [Option.ite_none_right_eq_some, needed_eq_some_iff, ← ApiServer.finds_iff,
    Option.bind_eq_some_iff, Option.map_eq_some_iff]
  constructor
  · intro hfinds
    cases hfinds with
    | apiServerMissing hmode h => exact .inl ⟨hmode, .inl ⟨h, rfl⟩⟩
    | apiServer hmode hserver h => exact .inl ⟨hmode, .inr ⟨_, hserver, h⟩⟩
    | input hserver hinput h => exact .inr ⟨hserver, _, hinput, _, h, rfl⟩
  · rintro (⟨hmode, ⟨h, rfl⟩ | ⟨api, hserver, h⟩⟩ | ⟨hserver, input, hinput, q, h, rfl⟩)
    · exact .apiServerMissing hmode h
    · exact .apiServer hmode hserver h
    · exact .input hserver hinput h

theorem presence_finds_iff : presence.Finds w p ↔ w.presenceProblem? = some p := by
  rw [Workflow.presenceProblem?, require_eq_some_iff]
  constructor
  · intro hfinds
    cases hfinds with
    | noResources h hmode => exact ⟨by simp [h, hmode], rfl⟩
  · rintro ⟨h, rfl⟩
    have hboth : w.resources = [] ∧ w.settings.webServerMode = false := by simpa using h
    exact .noResources hboth.1 hboth.2

theorem target_finds_iff : target.Finds w p ↔ w.targetProblem? = some p := by
  rw [Workflow.targetProblem?, require_eq_some_iff, Workflow.resource?]
  constructor
  · intro hfinds
    cases hfinds with
    | unknownTarget hne h => exact ⟨by simpa [hne] using h, rfl⟩
  · rintro ⟨h, rfl⟩
    have hboth : w.resources ≠ [] ∧ ∀ r ∈ w.resources, r.actionId ≠ w.metadata.targetActionId := by
      simpa using h
    exact .unknownTarget hboth.1 hboth.2

/-- The first id that was given before, with those that stand in front of it. -/
theorem firstRepeated?_eq_some_iff {seen ids : List String} {id : String} :
    Workflow.firstRepeated? seen ids = some id ↔ ∃ before after, ids = before ++ id :: after ∧
      before.Nodup ∧ before.Disjoint seen ∧ (id ∈ before ∨ id ∈ seen) := by
  induction ids generalizing seen with
  | nil => simp [Workflow.firstRepeated?]
  | cons a ids ih =>
    rw [Workflow.firstRepeated?, exists_place_cons_iff]
    by_cases hseen : a ∈ seen
    · have htail : ∀ before : List String, ¬ (a :: before).Disjoint seen :=
        fun before h => h List.mem_cons_self hseen
      simp only [List.contains_eq_mem, hseen, decide_true, if_true, Option.some.injEq, htail,
        false_and, and_false, exists_const, or_false]
      constructor
      · rintro rfl
        exact ⟨rfl, .nil, List.disjoint_nil_left seen, .inr hseen⟩
      · exact And.left
    · have hhead : ¬ (a = id ∧ ([] : List String).Nodup ∧ List.Disjoint [] seen ∧
          (id ∈ [] ∨ id ∈ seen)) := by
        rintro ⟨rfl, -, -, h⟩
        exact hseen (h.resolve_left List.not_mem_nil)
      simp only [List.contains_eq_mem, hseen, decide_false, Bool.false_eq_true, if_false, ih,
        or_iff_right hhead]
      -- The head joins those in front instead of those seen.
      refine exists₂_congr fun before after => and_congr_right fun _ => ?_
      simp only [List.nodup_cons, List.disjoint_cons_left, List.disjoint_cons_right,
        List.mem_cons, hseen, not_false_eq_true, true_and]
      tauto

theorem uniqueness_finds_iff : uniqueness.Finds w p ↔ w.uniquenessProblem? = some p := by
  simp only [Workflow.uniquenessProblem?, Option.map_eq_some_iff, firstRepeated?_eq_some_iff]
  constructor
  · intro hfinds
    cases hfinds with
    | duplicateId hids hbefore h =>
      exact ⟨_, ⟨_, _, hids, hbefore, List.disjoint_nil_right _, .inl h⟩, rfl⟩
  · rintro ⟨id, ⟨before, after, hids, hbefore, -, h⟩, rfl⟩
    exact .duplicateId hids hbefore (by simpa using h)

theorem requirements_finds_iff : requirements.Finds w p ↔ w.requirementProblem? = some p := by
  simp only [Workflow.requirementProblem?, List.findSome?_eq_some_iff, Option.map_eq_some_iff,
    Option.map_eq_none_iff, List.find?_eq_some_iff_append, List.find?_eq_none, Bool.not_not,
    Bool.not_eq_true', List.contains_eq_mem, decide_eq_true_eq, decide_eq_false_iff_not, not_not]
  constructor
  · intro hfinds
    cases hfinds with
    | unknownRequirement hresources hbefore hrequires hknown h =>
      exact ⟨_, _, _, hresources, ⟨_, ⟨h, _, _, hrequires, hknown⟩, rfl⟩, hbefore⟩
  · rintro ⟨before, r, after, hresources, ⟨id, ⟨h, known, others, hrequires, hknown⟩, rfl⟩,
      hbefore⟩
    exact .unknownRequirement hresources hbefore hrequires hknown h

theorem mem_order (c : WorkflowCheck) : c ∈ order := by
  cases c <;> simp [order]

/-- The relation says what the check computes. -/
theorem finds_iff : c.Finds w p ↔ c.problem? w = some p := by
  cases c with
  | metadata => exact metadata_finds_iff
  | settings => exact settings_finds_iff
  | presence => exact presence_finds_iff
  | target => exact target_finds_iff
  | uniqueness => exact uniqueness_finds_iff
  | requirements => exact requirements_finds_iff

theorem passes_iff : c.Passes w ↔ c.problem? w = none := by
  simp only [Passes, finds_iff, Option.eq_none_iff_forall_not_mem, Option.mem_def]

end WorkflowCheck

/-! ## Refusals -/

namespace Workflow

variable {w : Workflow}

/-- What the first failing check finds is the problem of the workflow. -/
theorem problem?_eq_findSome? : w.problem? = WorkflowCheck.order.findSome? (·.problem? w) := by
  simp only [problem?, WorkflowCheck.order, WorkflowCheck.problem?, findSome?_cons_eq_or,
    List.findSome?_nil, Option.or_none, Option.orElse_eq_orElse, Option.orElse_eq_or]

theorem problem?_eq_some_iff {p : WorkflowProblem} : w.problem? = some p ↔
    ∃ earlier c later, WorkflowCheck.order = earlier ++ c :: later ∧
      (∀ e ∈ earlier, e.Passes w) ∧ c.Finds w p := by
  simp only [problem?_eq_findSome?, List.findSome?_eq_some_iff, WorkflowCheck.passes_iff,
    WorkflowCheck.finds_iff, and_comm]

theorem problem?_eq_none_iff_passes : w.problem? = none ↔ ∀ c : WorkflowCheck, c.Passes w := by
  simp only [problem?_eq_findSome?, List.findSome?_eq_none_iff, WorkflowCheck.passes_iff,
    WorkflowCheck.mem_order, forall_const]

/-- The first resource with a problem. -/
theorem resourceProblem?_eq_some_iff {id : String} {p : ResourceProblem} :
    w.resourceProblem? = some (id, p) ↔ ∃ before r after, w.resources = before ++ r :: after ∧
      r.problem? (some w) = some p ∧ r.actionId = id ∧
      ∀ s ∈ before, s.problem? (some w) = none := by
  simp only [resourceProblem?, List.findSome?_eq_some_iff, Option.map_eq_some_iff,
    Option.map_eq_none_iff, Prod.mk.injEq, exists_eq_right_right, and_assoc]

/-- Where ids are distinct, a resource shares its own with none before or after it. -/
theorem actionId_ne_of_passes (h : WorkflowCheck.uniqueness.Passes w) {before after : List Resource}
    {r : Resource} (hresources : w.resources = before ++ r :: after) :
    ∀ s ∈ before ++ after, s.actionId ≠ r.actionId := by
  have hpair := uniquenessProblem?_eq_none_iff.1 (WorkflowCheck.passes_iff.1 h)
  rw [hresources, List.pairwise_append, List.pairwise_cons] at hpair
  obtain ⟨-, ⟨hafter, -⟩, hbefore⟩ := hpair
  intro s hs
  rcases List.mem_append.1 hs with hs | hs
  · exact hbefore s hs r List.mem_cons_self
  · exact (hafter s hs).symm

/-- A workflow is refused for what the first failing check finds.  When all checks pass it is
refused for its first resource with a problem, whose action id no other resource has. -/
theorem check_eq_error_iff_first {fault : Fault} : w.check = .error fault ↔
    (∃ earlier c later p, WorkflowCheck.order = earlier ++ c :: later ∧
      (∀ e ∈ earlier, e.Passes w) ∧ c.Finds w p ∧ fault = .invalidWorkflow p.message) ∨
    ((∀ c : WorkflowCheck, c.Passes w) ∧
      ∃ before r after p, w.resources = before ++ r :: after ∧
        (∀ s ∈ before, s.problem? (some w) = none) ∧ r.problem? (some w) = some p ∧
        (∀ s ∈ before ++ after, s.actionId ≠ r.actionId) ∧
        fault = .resourceFailed r.actionId (.invalidResource p.message)) := by
  rw [check_eq_error_iff, problem?_eq_none_iff_passes]
  simp only [problem?_eq_some_iff, resourceProblem?_eq_some_iff]
  constructor
  · rintro (⟨p, ⟨earlier, c, later, horder, hearlier, hfinds⟩, hfault⟩ |
      ⟨hpasses, id, p, ⟨before, r, after, hresources, hr, rfl, hbefore⟩, hfault⟩)
    · exact .inl ⟨earlier, c, later, p, horder, hearlier, hfinds, hfault⟩
    · exact .inr ⟨hpasses, before, r, after, p, hresources, hbefore, hr,
        actionId_ne_of_passes (hpasses .uniqueness) hresources, hfault⟩
  · rintro (⟨earlier, c, later, p, horder, hearlier, hfinds, hfault⟩ |
      ⟨hpasses, before, r, after, p, hresources, hbefore, hr, -, hfault⟩)
    · exact .inl ⟨p, ⟨earlier, c, later, horder, hearlier, hfinds⟩, hfault⟩
    · exact .inr ⟨hpasses, r.actionId, p, ⟨before, r, after, hresources, hr, rfl, hbefore⟩, hfault⟩

end Workflow

end FlowCheck
