import FlowCheck.Wire.Record

/-!
# Actions

The six primary actions that a resource can run (a chat, an HTTP request, SQL, Python, a shell
command, speech output) and the API response that it can return.
-/

namespace FlowCheck

/-! ## Chat -/

structure ChatMessage where
  role : String := ""
  prompt : String := ""

namespace ChatMessage

def record : Wire.Record ChatMessage ChatMessage :=
  (Wire.Record.start ChatMessage.mk)
    |>.text "role" ChatMessage.role
    |>.text "prompt" ChatMessage.prompt

def codec : Wire.Codec ChatMessage := record.codec "ChatMessage"

end ChatMessage

structure ToolParameter where
  type : String := ""
  description : String := ""
  required : Bool := false

namespace ToolParameter

def record : Wire.Record ToolParameter ToolParameter :=
  (Wire.Record.start ToolParameter.mk)
    |>.text "type" ToolParameter.type
    |>.text "description" ToolParameter.description
    |>.flag "required" ToolParameter.required

def codec : Wire.Codec ToolParameter := record.codec "ToolParameter"

end ToolParameter

/-- A tool that the model may call. -/
structure ChatTool where
  name : String
  script : String
  description : String
  parameters : List (String × ToolParameter)

namespace ChatTool

def record : Wire.Record ChatTool ChatTool :=
  (Wire.Record.start ChatTool.mk)
    |>.required "name" ChatTool.name .text
    |>.text "script" ChatTool.script
    |>.text "description" ChatTool.description
    |>.briefTable "parameters" ChatTool.parameters ToolParameter.codec

def codec : Wire.Codec ChatTool := record.codec "ChatTool"

end ChatTool

structure Chat where
  model : String := ""
  backend : Option String := none
  baseUrl : Option String := none
  apiKey : Option String := none
  contextLength : Option UInt32 := none
  role : Option String := none
  prompt : String := ""
  scenario : List ChatMessage := []
  tools : List ChatTool := []
  files : List String := []
  jsonResponse : Bool := false
  jsonResponseKeys : List String := []
  timeoutDuration : Option String := none
  temperature : Option Binary64 := none
  maxTokens : Option UInt32 := none

namespace Chat

def record : Wire.Record Chat Chat :=
  (Wire.Record.start Chat.mk)
    |>.text "model" Chat.model
    |>.optionalText "backend" Chat.backend
    |>.optionalText "baseUrl" Chat.baseUrl
    |>.optionalText "apiKey" Chat.apiKey
    |>.optional "contextLength" Chat.contextLength .word32
    |>.optionalText "role" Chat.role
    |>.text "prompt" Chat.prompt
    |>.briefList "scenario" Chat.scenario ChatMessage.codec
    |>.briefList "tools" Chat.tools ChatTool.codec
    |>.briefList "files" Chat.files .text
    |>.flag "jsonResponse" Chat.jsonResponse
    |>.briefList "jsonResponseKeys" Chat.jsonResponseKeys .text
    |>.optionalText "timeoutDuration" Chat.timeoutDuration
    |>.optional "temperature" Chat.temperature .real
    |>.optional "maxTokens" Chat.maxTokens .word32

def codec : Wire.Codec Chat := record.codec "ChatConfig"

end Chat

/-! ## HTTP request -/

structure Retry where
  maxAttempts : Option UInt32 := none
  backoff : Option String := none

namespace Retry

def record : Wire.Record Retry Retry :=
  (Wire.Record.start Retry.mk)
    |>.optional "maxAttempts" Retry.maxAttempts .word32
    |>.optionalText "backoff" Retry.backoff

def codec : Wire.Codec Retry := record.codec "RetryConfig"

end Retry

structure HttpCache where
  enabled : Bool := false
  ttl : Option String := none

namespace HttpCache

def record : Wire.Record HttpCache HttpCache :=
  (Wire.Record.start HttpCache.mk)
    |>.flag "enabled" HttpCache.enabled
    |>.optionalText "ttl" HttpCache.ttl

def codec : Wire.Codec HttpCache := record.codec "HttpCacheConfig"

end HttpCache

structure HttpClient where
  method : String := ""
  url : String := ""
  headers : List (String × String) := []
  data : Option Json := none
  timeoutDuration : Option String := none
  retry : Option Retry := none
  cache : Option HttpCache := none
  followRedirects : Option Bool := none
  proxy : Option String := none

namespace HttpClient

def record : Wire.Record HttpClient HttpClient :=
  (Wire.Record.start HttpClient.mk)
    |>.text "method" HttpClient.method
    |>.text "url" HttpClient.url
    |>.briefTable "headers" HttpClient.headers .text
    |>.optional "data" HttpClient.data .any
    |>.optionalText "timeoutDuration" HttpClient.timeoutDuration
    |>.optional "retry" HttpClient.retry Retry.codec
    |>.optional "cache" HttpClient.cache HttpCache.codec
    |>.optional "followRedirects" HttpClient.followRedirects .flag
    |>.optionalText "proxy" HttpClient.proxy

def codec : Wire.Codec HttpClient := record.codec "HttpClientConfig"

end HttpClient

/-! ## SQL -/

structure SqlQuery where
  name : String := ""
  query : String := ""
  params : List Json := []

namespace SqlQuery

def record : Wire.Record SqlQuery SqlQuery :=
  (Wire.Record.start SqlQuery.mk)
    |>.text "name" SqlQuery.name
    |>.text "query" SqlQuery.query
    |>.briefList "params" SqlQuery.params .any

def codec : Wire.Codec SqlQuery := record.codec "SqlQuery"

end SqlQuery

structure Sql where
  /-- A key of the connections in the settings. -/
  connectionName : String := ""
  connection : String := ""
  query : String := ""
  params : List Json := []
  transaction : Bool := false
  queries : List SqlQuery := []
  format : Option String := none
  timeoutDuration : Option String := none
  maxRows : Option UInt32 := none

namespace Sql

def record : Wire.Record Sql Sql :=
  (Wire.Record.start Sql.mk)
    |>.text "connectionName" Sql.connectionName
    |>.text "connection" Sql.connection
    |>.text "query" Sql.query
    |>.briefList "params" Sql.params .any
    |>.flag "transaction" Sql.transaction
    |>.briefList "queries" Sql.queries SqlQuery.codec
    |>.optionalText "format" Sql.format
    |>.optionalText "timeoutDuration" Sql.timeoutDuration
    |>.optional "maxRows" Sql.maxRows .word32

def codec : Wire.Codec Sql := record.codec "SqlConfig"

end Sql

/-! ## Python, shell and speech -/

structure Script where
  script : String := ""
  scriptFile : Option String := none
  args : List String := []
  timeoutDuration : Option String := none
  venvName : Option String := none

namespace Script

def record : Wire.Record Script Script :=
  (Wire.Record.start Script.mk)
    |>.text "script" Script.script
    |>.optionalText "scriptFile" Script.scriptFile
    |>.briefList "args" Script.args .text
    |>.optionalText "timeoutDuration" Script.timeoutDuration
    |>.optionalText "venvName" Script.venvName

def codec : Wire.Codec Script := record.codec "PythonConfig"

end Script

structure Exec where
  command : String := ""
  args : List String := []
  timeoutDuration : Option String := none
  workingDir : Option String := none
  env : List (String × String) := []

namespace Exec

def record : Wire.Record Exec Exec :=
  (Wire.Record.start Exec.mk)
    |>.text "command" Exec.command
    |>.briefList "args" Exec.args .text
    |>.optionalText "timeoutDuration" Exec.timeoutDuration
    |>.optionalText "workingDir" Exec.workingDir
    |>.briefTable "env" Exec.env .text

def codec : Wire.Codec Exec := record.codec "ExecConfig"

end Exec

structure Speech where
  text : String := ""
  mode : Option String := none
  voice : Option String := none
  outputFormat : Option String := none
  outputFile : Option String := none

namespace Speech

def record : Wire.Record Speech Speech :=
  (Wire.Record.start Speech.mk)
    |>.text "text" Speech.text
    |>.optionalText "mode" Speech.mode
    |>.optionalText "voice" Speech.voice
    |>.optionalText "outputFormat" Speech.outputFormat
    |>.optionalText "outputFile" Speech.outputFile

def codec : Wire.Codec Speech := record.codec "TtsConfig"

end Speech

/-! ## API response -/

structure ResponseMeta where
  headers : List (String × String) := []
  model : Option String := none
  backend : Option String := none

namespace ResponseMeta

def record : Wire.Record ResponseMeta ResponseMeta :=
  (Wire.Record.start ResponseMeta.mk)
    |>.briefTable "headers" ResponseMeta.headers .text
    |>.optionalText "model" ResponseMeta.model
    |>.optionalText "backend" ResponseMeta.backend

def codec : Wire.Codec ResponseMeta := record.codec "ResponseMeta"

end ResponseMeta

structure ApiResponse where
  success : Bool := false
  response : Option Json := none
  info : Option ResponseMeta := none

namespace ApiResponse

def record : Wire.Record ApiResponse ApiResponse :=
  (Wire.Record.start ApiResponse.mk)
    |>.flag "success" ApiResponse.success
    |>.optional "response" ApiResponse.response .any
    |>.optional "meta" ApiResponse.info ResponseMeta.codec

def codec : Wire.Codec ApiResponse := record.codec "ApiResponseConfig"

end ApiResponse

/-- A primary action with its settings. -/
inductive Action where
  | chat (settings : Chat)
  | httpClient (settings : HttpClient)
  | sql (settings : Sql)
  | python (settings : Script)
  | exec (settings : Exec)
  | tts (settings : Speech)

namespace Action

/-- The key under which an action is written. -/
def name : Action → String
  | chat _ => "chat"
  | httpClient _ => "httpClient"
  | sql _ => "sql"
  | python _ => "python"
  | exec _ => "exec"
  | tts _ => "tts"

end Action

end FlowCheck
