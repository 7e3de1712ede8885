import FlowCheck.Proofs.Rules.AcceptedInput

/-!
# Which resources are accepted

The rules of resources, written down as one list of conditions (`Resource.WellFormed`), are what
the check decides (`Resource.accepted_iff_wellFormed`).  Inside a workflow there is one condition
more: an SQL connection that is given by name is one of the workflow's (`Resource.ConnectsIn`).  A
resource that is accepted inside a workflow is therefore accepted alone.

Scripts, shell commands, speech, API responses and the options of a run are not looked at, and of
the metadata only the id and the name.  Without all these the rules find the same
(`Resource.problem?_relevant`).
-/

namespace FlowCheck

open Rules (require)

/-! ## Actions -/

namespace Chat

/-- There are a model and a prompt, and a backend that is given is empty or known. -/
structure WellFormed (chat : Chat) : Prop where
  model : chat.model ≠ ""
  prompt : chat.prompt ≠ ""
  backend : ∀ b, chat.backend = some b → b ∈ ["", "ollama", "openai", "anthropic", "google",
    "cohere", "mistral", "together", "perplexity", "groq", "deepseek"]

theorem problem?_eq_none_iff {chat : Chat} : chat.problem? = none ↔ chat.WellFormed := by
  rw [problem?, Option.orElse_eq_none, Option.orElse_eq_none, Rules.require_eq_none,
    Rules.require_eq_none, Options.chatBackends, Rules.optional_name_problem_eq_none_iff]
  constructor
  · rintro ⟨hmodel, hprompt, hbackend⟩
    exact ⟨by simpa using hmodel, by simpa using hprompt, hbackend⟩
  · rintro ⟨hmodel, hprompt, hbackend⟩
    exact ⟨by simpa using hmodel, by simpa using hprompt, hbackend⟩

end Chat

namespace Sql

/-- There are a query, or several, and a connection, or the name of one, and a format that is given
is empty or known. -/
structure WellFormed (sql : Sql) : Prop where
  query : sql.query ≠ "" ∨ sql.queries ≠ []
  connection : sql.connection ≠ "" ∨ sql.connectionName ≠ ""
  format : ∀ f, sql.format = some f → f ∈ ["", "json", "csv", "table"]

/-- A connection that is given by name is among those of the settings. -/
def ConnectsIn (sql : Sql) (settings : Settings) : Prop :=
  sql.connectionName ≠ "" → sql.connectionName ∈ settings.sqlConnections.map Prod.fst

theorem connectionProblem?_eq_none_iff {sql : Sql} {settings : Settings} :
    sql.connectionProblem? settings = none ↔ sql.ConnectsIn settings := by
  have hkey : settings.hasConnection sql.connectionName = true ↔
      sql.connectionName ∈ settings.sqlConnections.map Prod.fst := by
    simp [Settings.hasConnection, List.any_eq_true]
  rw [connectionProblem?, ConnectsIn]
  by_cases hname : sql.connectionName = ""
  · simp [hname]
  · rw [if_neg (by simpa using hname), Option.orElse_eq_none, Rules.require_eq_none,
      Rules.require_eq_none, hkey]
    constructor
    · exact fun h _ => h.2
    · intro h
      have hmem := h hname
      have hne : settings.sqlConnections ≠ [] := fun hnil => by simp [hnil] at hmem
      exact ⟨by simpa using hne, hmem⟩

theorem problem?_eq_none_iff {sql : Sql} {context : Option Workflow} :
    sql.problem? context = none ↔
      sql.WellFormed ∧ ∀ w, context = some w → sql.ConnectsIn w.settings := by
  rw [problem?, Option.orElse_eq_none, Option.orElse_eq_none, Option.orElse_eq_none,
    Rules.require_eq_none, Rules.require_eq_none, Option.bind_eq_none_iff, Options.sqlFormats,
    Rules.optional_name_problem_eq_none_iff]
  simp only [connectionProblem?_eq_none_iff]
  have hquery : (!(sql.query.isEmpty && sql.queries.isEmpty)) = true ↔
      sql.query ≠ "" ∨ sql.queries ≠ [] := by
    simp
  have hconnection : (!(sql.connection.isEmpty && sql.connectionName.isEmpty)) = true ↔
      sql.connection ≠ "" ∨ sql.connectionName ≠ "" := by
    simp
  rw [hquery, hconnection]
  constructor
  · rintro ⟨hquery, hconnection, hnamed, hformat⟩
    exact ⟨⟨hquery, hconnection, hformat⟩, hnamed⟩
  · rintro ⟨⟨hquery, hconnection, hformat⟩, hnamed⟩
    exact ⟨hquery, hconnection, hnamed, hformat⟩

end Sql

namespace HttpClient

/-- There is a URL, and the method is known. -/
structure WellFormed (http : HttpClient) : Prop where
  url : http.url ≠ ""
  method : http.method ∈ ["GET", "POST", "PUT", "DELETE", "PATCH"]

theorem problem?_eq_none_iff {http : HttpClient} : http.problem? = none ↔ http.WellFormed := by
  rw [problem?, Option.orElse_eq_none, Rules.require_eq_none, Options.httpMethods,
    Rules.name_problem_eq_none_iff (by decide)]
  constructor
  · rintro ⟨hurl, hmethod⟩
    exact ⟨by simpa using hurl, hmethod⟩
  · rintro ⟨hurl, hmethod⟩
    exact ⟨by simpa using hurl, hmethod⟩

end HttpClient

/-- Without the settings of an action that has no rules. -/
def Action.relevant : Action → Action
  | python _ => python {}
  | exec _ => exec {}
  | tts _ => tts {}
  | action => action

theorem Action.problem?_relevant (context : Option Workflow) (action : Action) :
    action.relevant.problem? context = action.problem? context := by
  cases action <;> rfl

/-! ## Resources -/

namespace Resource

/-- What the check asks of a resource by itself. -/
structure WellFormed (r : Resource) : Prop where
  id : r.actionId ≠ ""
  name : r.metadata.name ≠ ""
  runs : r.run.primary ≠ none ∨ r.run.apiResponse ≠ none
  chat : ∀ c, r.run.primary = some (.chat c) → c.WellFormed
  sql : ∀ s, r.run.primary = some (.sql s) → s.WellFormed
  httpClient : ∀ h, r.run.primary = some (.httpClient h) → h.WellFormed

/-- What the check asks of a resource of a workflow in addition. -/
def ConnectsIn (r : Resource) (w : Workflow) : Prop :=
  ∀ s, r.run.primary = some (.sql s) → s.ConnectsIn w.settings

/-- Three kinds of action have rules. -/
theorem no_action_problem_iff {primary : Option Action} {context : Option Workflow} :
    primary.bind (Action.problem? context) = none ↔
      (∀ c, primary = some (.chat c) → c.WellFormed) ∧
        (∀ s, primary = some (.sql s) →
          s.WellFormed ∧ ∀ w, context = some w → s.ConnectsIn w.settings) ∧
        ∀ h, primary = some (.httpClient h) → h.WellFormed := by
  rcases primary with _ | c | h | s | _ | _ | _ <;>
    simp [Action.problem?, Chat.problem?_eq_none_iff, Sql.problem?_eq_none_iff,
      HttpClient.problem?_eq_none_iff]

theorem problem?_eq_none_iff {r : Resource} {context : Option Workflow} :
    r.problem? context = none ↔ r.WellFormed ∧ ∀ w, context = some w → r.ConnectsIn w := by
  have hruns : (!r.run.isEmpty) = true ↔ r.run.primary ≠ none ∨ r.run.apiResponse ≠ none := by
    simp [Run.isEmpty, Option.isSome_iff_ne_none]
  rw [problem?, Option.orElse_eq_none, Option.orElse_eq_none, Option.orElse_eq_none,
    Rules.require_eq_none, Rules.require_eq_none, Rules.require_eq_none, hruns,
    no_action_problem_iff]
  constructor
  · rintro ⟨hid, hname, hruns, hchat, hsql, hhttp⟩
    exact ⟨⟨by simpa using hid, by simpa using hname, hruns, hchat, fun s hs => (hsql s hs).1,
      hhttp⟩, fun w hw s hs => (hsql s hs).2 w hw⟩
  · rintro ⟨h, hconnects⟩
    exact ⟨by simpa using h.id, by simpa using h.name, h.runs, h.chat,
      fun s hs => ⟨h.sql s hs, fun w hw => hconnects w hw s hs⟩, h.httpClient⟩

/-- With the id, the name and what there are rules for. -/
def relevant (r : Resource) : Resource where
  metadata := { actionId := r.metadata.actionId, name := r.metadata.name }
  run :=
    { primary := r.run.primary.map Action.relevant
      apiResponse := r.run.apiResponse.map fun _ => {} }

theorem problem?_relevant (r : Resource) (context : Option Workflow) :
    r.relevant.problem? context = r.problem? context := by
  have haction : r.relevant.run.primary.bind (Action.problem? context) =
      r.run.primary.bind (Action.problem? context) := by
    rw [relevant, Option.bind_map]
    exact congrArg _ (funext fun action => action.problem?_relevant context)
  have hempty : r.relevant.run.isEmpty = r.run.isEmpty := by
    rw [Run.isEmpty, Run.isEmpty, relevant, Option.isNone_map, Option.isNone_map]
  rw [problem?, problem?, haction, hempty]
  rfl

theorem accepted_iff_no_problem {r : Resource} {context : Option Workflow} :
    refuse ResourceProblem.toFault (r.problem? context) = .ok () ↔ r.problem? context = none := by
  cases r.problem? context with
  | none => exact ⟨fun _ => rfl, fun _ => rfl⟩
  | some problem => exact ⟨nofun, nofun⟩

/-- The check accepts a resource exactly when it is well-formed and, in a workflow, an SQL
connection that it gives by name is one of the workflow's.  What there are no rules for changes
nothing in what the rules find, and what is accepted in a workflow is accepted without one. -/
theorem accepted_iff_wellFormed (r : Resource) (context : Option Workflow) :
    (refuse ResourceProblem.toFault (r.problem? context) = .ok () ↔
        r.WellFormed ∧ ∀ w, context = some w → r.ConnectsIn w) ∧
      r.relevant.problem? context = r.problem? context ∧
      (refuse ResourceProblem.toFault (r.problem? context) = .ok () →
        refuse ResourceProblem.toFault (r.problem? none) = .ok ()) := by
  simp only [accepted_iff_no_problem]
  refine ⟨problem?_eq_none_iff, r.problem?_relevant context, fun h => ?_⟩
  exact problem?_eq_none_iff.2 ⟨(problem?_eq_none_iff.1 h).1, fun _ hw => nomatch hw⟩

end Resource

end FlowCheck
