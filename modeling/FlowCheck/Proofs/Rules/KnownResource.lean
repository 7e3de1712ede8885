import FlowCheck.Proofs.Model.Run
import FlowCheck.Proofs.Rules.KnownInput

/-!
# Names in resources

The schema of a resource asks for an action id and knows the backends of chats, the formats of SQL
results and the methods of HTTP requests.  In a resource that is read from what it allows the rules
find no problem with any of these (`Resource.problem?_not_settled`).
-/

namespace FlowCheck

open Rules (require require_eq_some_iff eq_of_name_problem)
open Schema (ensures_emptyOrKnown ensures_known ensures_record membersEnsure_start)

/-- What can be wrong with a resource and breaks its schema as well. -/
def ResourceProblem.IsSettled : ResourceProblem → Prop
  | idMissing | unknownBackend _ | unknownFormat _ | unknownMethod _ => True
  | _ => False

/-! ## Actions -/

theorem Chat.ensures : Schema.chat.Ensures codec fun chat =>
    ∀ b, chat.backend = some b → Options.chatBackends.allows b = true := by
  refine ensures_record ?_
  -- Thirteen members stand behind the backend.
  iterate 13 refine .skip ?_
  exact .optional (ensures_known (by simp)) nofun rfl <| .skip <|
    membersEnsure_start fun _ _ hbackend _ _ _ _ _ _ _ _ _ _ _ _ _ => hbackend

theorem Sql.ensures : Schema.sql.Ensures codec fun sql =>
    ∀ f, sql.format = some f → Options.sqlFormats.allows f = true :=
  ensures_record <| .skip <| .skip <|
    .optional (ensures_known (by simp)) nofun rfl <|
    .skip <| .skip <| .skip <| .skip <| .skip <| .skip <|
    membersEnsure_start fun _ _ _ _ _ _ _ hformat _ _ => hformat

theorem HttpClient.ensures : Schema.httpClient.Ensures codec fun http =>
    Options.httpMethods.EmptyOrKnown http.method :=
  ensures_record <| .skip <| .skip <| .skip <| .skip <| .skip <| .skip <| .skip <| .skip <|
    .member (ensures_emptyOrKnown (by simp)) Options.emptyOrKnown_empty rfl <|
    membersEnsure_start fun _ hmethod _ _ _ _ _ _ _ _ => hmethod

namespace Action

/-- The names that an action gives are known. -/
def IsKnown : Action → Prop
  | chat c => ∀ b, c.backend = some b → Options.chatBackends.allows b = true
  | sql s => ∀ f, s.format = some f → Options.sqlFormats.allows f = true
  | httpClient h => Options.httpMethods.EmptyOrKnown h.method
  | python _ | exec _ | tts _ => True

/-- A name that may be empty is reported only when it is neither empty nor known. -/
theorem bind_require_ne_some {options : Options} {name : Option String}
    {unknown : String → ResourceProblem} {p : ResourceProblem}
    (h : ∀ n, name = some n → options.allows n = true) :
    (name.bind fun n => require (n.isEmpty || options.allows n) (unknown n)) ≠ some p := by
  intro hp
  obtain ⟨n, hn, hrequire⟩ := Option.bind_eq_some_iff.1 hp
  simp [require_eq_some_iff, h n hn] at hrequire

theorem problem?_not_settled {context : Option Workflow} {action : Action} (h : action.IsKnown)
    {p : ResourceProblem} (hp : action.problem? context = some p) : ¬ p.IsSettled := by
  cases action with
  | chat c =>
    rw [problem?, Chat.problem?, Option.orElse_eq_some, Option.orElse_eq_some] at hp
    rcases hp with hmodel | ⟨-, hprompt | ⟨-, hbackend⟩⟩
    · obtain ⟨-, rfl⟩ := require_eq_some_iff.1 hmodel
      exact id
    · obtain ⟨-, rfl⟩ := require_eq_some_iff.1 hprompt
      exact id
    · exact absurd hbackend (bind_require_ne_some h)
  | sql s =>
    rw [problem?, Sql.problem?, Option.orElse_eq_some, Option.orElse_eq_some,
      Option.orElse_eq_some] at hp
    rcases hp with hquery | ⟨-, hconnection | ⟨-, hname | ⟨-, hformat⟩⟩⟩
    · obtain ⟨-, rfl⟩ := require_eq_some_iff.1 hquery
      exact id
    · obtain ⟨-, rfl⟩ := require_eq_some_iff.1 hconnection
      exact id
    · obtain ⟨w, -, hconnection⟩ := Option.bind_eq_some_iff.1 hname
      unfold Sql.connectionProblem? at hconnection
      split at hconnection
      · contradiction
      · rcases (Option.orElse_eq_some _ _ _).1 hconnection with hsome | ⟨-, hknown⟩
        · obtain ⟨-, rfl⟩ := require_eq_some_iff.1 hsome
          exact id
        · obtain ⟨-, rfl⟩ := require_eq_some_iff.1 hknown
          exact id
    · exact absurd hformat (bind_require_ne_some h)
  | httpClient http =>
    rw [problem?, HttpClient.problem?, Option.orElse_eq_some] at hp
    rcases hp with hurl | ⟨-, hmethod⟩
    · obtain ⟨-, rfl⟩ := require_eq_some_iff.1 hurl
      exact id
    · rw [eq_of_name_problem h hmethod]
      exact id
  | python _ | exec _ | tts _ => contradiction

end Action

namespace Run

/-- The blocks of a run are known actions. -/
theorem membersEnsure_parts :
    Schema.MembersEnsure RunParts.record [] Schema.run.properties fun parts =>
      ∀ action ∈ parts.actions, action.IsKnown := by
  refine .skip <| .skip <| .skip <| .skip <|
    .optional Sql.ensures nofun rfl <|
    .optional HttpClient.ensures nofun rfl <|
    .optional Chat.ensures nofun rfl <|
    membersEnsure_start fun chat hchat http hhttp sql hsql python exec tts _ action haction => ?_
  cases action with
  | chat c => exact hchat c (by simpa [RunParts.actions] using haction)
  | sql s => exact hsql s (by simpa [RunParts.actions] using haction)
  | httpClient h => exact hhttp h (by simpa [RunParts.actions] using haction)
  | python _ | exec _ | tts _ => trivial

/-- The primary action of a run is one of the blocks that it names. -/
theorem ensures : Schema.run.Ensures codec fun run =>
    ∀ action, run.primary = some action → action.IsKnown := by
  rintro site j run ⟨members, rfl, hproperties, hrequired, -⟩ hread action haction
  obtain ⟨parts, options, hparts, -, hrun⟩ := read_obj_eq_ok_iff.1 hread
  obtain ⟨primary, hactions, rfl⟩ := ofParts_eq_ok_iff.1 hrun
  obtain rfl : primary = some action := haction
  exact membersEnsure_parts hproperties hrequired hparts action (by simp [hactions])

end Run

/-! ## Resources -/

namespace Resource

/-- The resource has an id, and the names that its action gives are known. -/
structure IsKnown (r : Resource) : Prop where
  id : r.actionId ≠ ""
  primary : ∀ action, r.run.primary = some action → action.IsKnown

theorem ensures_metadata : Schema.resourceMetadata.Ensures ResourceMetadata.codec fun m =>
    m.actionId ≠ "" := by
  refine ensures_record <| .skip <| .skip <| .skip <| .skip <|
    .needed Schema.ensures_minLength (by simp) rfl <|
    membersEnsure_start fun id hlong _ _ _ _ hempty => ?_
  obtain rfl : id = "" := hempty
  contradiction

theorem ensures : Schema.resource.Ensures codec IsKnown :=
  ensures_record <|
    .needed Run.ensures (by simp) rfl <|
    .skip <|
    .needed ensures_metadata (by simp) rfl <|
    .skip <| .skip <|
    membersEnsure_start fun _ _ _ hid _ _ hprimary => ⟨hid, hprimary⟩

theorem problem?_not_settled {r : Resource} (h : r.IsKnown) {context : Option Workflow}
    {p : ResourceProblem} (hp : r.problem? context = some p) : ¬ p.IsSettled := by
  rw [problem?, Option.orElse_eq_some, Option.orElse_eq_some, Option.orElse_eq_some] at hp
  rcases hp with hid | ⟨-, hname | ⟨-, hrun | ⟨-, haction⟩⟩⟩
  · simp [require_eq_some_iff, h.id] at hid
  · obtain ⟨-, rfl⟩ := require_eq_some_iff.1 hname
    exact id
  · obtain ⟨-, rfl⟩ := require_eq_some_iff.1 hrun
    exact id
  · obtain ⟨action, hprimary, hrule⟩ := Option.bind_eq_some_iff.1 haction
    exact Action.problem?_not_settled (h.primary action hprimary) hrule

end Resource

end FlowCheck
