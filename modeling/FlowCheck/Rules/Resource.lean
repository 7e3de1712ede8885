import FlowCheck.Model.Workflow
import FlowCheck.Rules.Basic

/-!
# Rules for resources

A resource has an action id and a name and runs something.  Chats, SQL and HTTP requests have rules
of their own; the other actions have none.  An SQL connection given by name is looked up in the
settings of the workflow, where there is one.
-/

namespace FlowCheck

/-- What can be wrong with a resource. -/
inductive ResourceProblem where
  | idMissing
  | nameMissing
  | nothingToRun
  | chatModelMissing
  | chatPromptMissing
  | unknownBackend (name : String)
  | queryMissing
  | connectionMissing
  /-- A connection is given by name to a workflow that has none. -/
  | noConnections (name : String)
  | unknownConnection (name : String)
  | unknownFormat (name : String)
  | urlMissing
  | methodMissing
  | unknownMethod (name : String)
deriving DecidableEq

namespace ResourceProblem

open Rules (unknownName)

def message : ResourceProblem → String
  | idMissing => "resource actionID is required"
  | nameMissing => "resource name is required"
  | nothingToRun => "resource must specify at least one execution type " ++
    "(chat, httpClient, sql, python, exec, tts, apiResponse)"
  | chatModelMissing => "chat.model is required"
  | chatPromptMissing => "chat.prompt is required"
  | unknownBackend name => unknownName "chat backend" name Options.chatBackends
  | queryMissing => "sql.query or sql.queries is required"
  | connectionMissing => "sql.connection or sql.connectionName is required"
  | noConnections name =>
    "sql connection '" ++ name ++ "' not found: workflow has no sqlConnections defined"
  | unknownConnection name =>
    "sql connection '" ++ name ++ "' not found in workflow sqlConnections"
  | unknownFormat name => unknownName "SQL format" name Options.sqlFormats
  | urlMissing => "httpClient.url is required"
  | methodMissing => "httpClient.method is required"
  | unknownMethod name => unknownName "HTTP method" name Options.httpMethods

end ResourceProblem

open Rules (require)

namespace Chat

/-- An empty backend counts as none. -/
def problem? (chat : Chat) : Option ResourceProblem :=
  require (!chat.model.isEmpty) .chatModelMissing <|>
    require (!chat.prompt.isEmpty) .chatPromptMissing <|>
    chat.backend.bind fun backend =>
      require (backend.isEmpty || Options.chatBackends.allows backend) (.unknownBackend backend)

end Chat

namespace Sql

/-- The connection named is among those of the workflow. -/
def connectionProblem? (sql : Sql) (settings : Settings) : Option ResourceProblem :=
  if sql.connectionName.isEmpty then none
  else
    require (!settings.sqlConnections.isEmpty) (.noConnections sql.connectionName) <|>
      require (settings.hasConnection sql.connectionName) (.unknownConnection sql.connectionName)

/-- An empty format counts as none. -/
def problem? (sql : Sql) (context : Option Workflow) : Option ResourceProblem :=
  require (!(sql.query.isEmpty && sql.queries.isEmpty)) .queryMissing <|>
    require (!(sql.connection.isEmpty && sql.connectionName.isEmpty)) .connectionMissing <|>
    (context.bind fun w => sql.connectionProblem? w.settings) <|>
    sql.format.bind fun format =>
      require (format.isEmpty || Options.sqlFormats.allows format) (.unknownFormat format)

end Sql

namespace HttpClient

def problem? (http : HttpClient) : Option ResourceProblem :=
  require (!http.url.isEmpty) .urlMissing <|>
    require (!http.method.isEmpty) .methodMissing <|>
    require (Options.httpMethods.allows http.method) (.unknownMethod http.method)

end HttpClient

namespace Action

def problem? (context : Option Workflow) : Action → Option ResourceProblem
  | chat c => c.problem?
  | sql s => s.problem? context
  | httpClient h => h.problem?
  | python _ | exec _ | tts _ => none

end Action

namespace Resource

def problem? (r : Resource) (context : Option Workflow) : Option ResourceProblem :=
  require (!r.actionId.isEmpty) .idMissing <|>
    require (!r.metadata.name.isEmpty) .nameMissing <|>
    require (!r.run.isEmpty) .nothingToRun <|>
    r.run.primary.bind (Action.problem? context)

end Resource

end FlowCheck
