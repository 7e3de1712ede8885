import FlowCheck.Model.Input
import FlowCheck.Model.Run

/-!
# Workflows

A workflow is its metadata, its settings (servers, input, storage, agent) and its resources.  A
resource has an action id of its own, names the resources it requires, and runs something.
-/

namespace FlowCheck

/-! ## Resources -/

structure ResourceMetadata where
  actionId : String := ""
  name : String := ""
  description : String := ""
  category : String := ""
  /-- The action ids of the resources this one depends on. -/
  requires : List String := []
deriving DecidableEq

namespace ResourceMetadata

def record : Wire.Record ResourceMetadata ResourceMetadata :=
  (Wire.Record.start ResourceMetadata.mk)
    |>.text "actionId" ResourceMetadata.actionId
    |>.text "name" ResourceMetadata.name
    |>.briefText "description" ResourceMetadata.description
    |>.briefText "category" ResourceMetadata.category
    |>.list "requires" ResourceMetadata.requires .text

def codec : Wire.Codec ResourceMetadata := record.codec "ResourceMetadata"

end ResourceMetadata

structure Resource where
  apiVersion : String := ""
  kind : String := ""
  metadata : ResourceMetadata := {}
  items : List String := []
  run : Run := {}

namespace Resource

def record : Wire.Record Resource Resource :=
  (Wire.Record.start Resource.mk)
    |>.briefText "apiVersion" Resource.apiVersion
    |>.briefText "kind" Resource.kind
    |>.defaulted "metadata" Resource.metadata ResourceMetadata.codec {}
    |>.briefList "items" Resource.items .text
    |>.defaulted "run" Resource.run Run.codec {}

def codec : Wire.Codec Resource := record.codec "Resource"

def actionId (r : Resource) : String := r.metadata.actionId

end Resource

/-! ## Servers -/

structure Route where
  path : String := ""
  methods : List String := []
deriving DecidableEq

namespace Route

def record : Wire.Record Route Route :=
  (Wire.Record.start Route.mk)
    |>.text "path" Route.path
    |>.list "methods" Route.methods .text

def codec : Wire.Codec Route := record.codec "Route"

end Route

structure Cors where
  enableCors : Bool := false
  allowOrigins : List String := []
  allowMethods : List String := []
  allowHeaders : List String := []
  allowCredentials : Bool := false
deriving DecidableEq

namespace Cors

def record : Wire.Record Cors Cors :=
  (Wire.Record.start Cors.mk)
    |>.flag "enableCors" Cors.enableCors
    |>.list "allowOrigins" Cors.allowOrigins .text
    |>.list "allowMethods" Cors.allowMethods .text
    |>.list "allowHeaders" Cors.allowHeaders .text
    |>.flag "allowCredentials" Cors.allowCredentials

def codec : Wire.Codec Cors := record.codec "CorsConfig"

end Cors

structure ApiServer where
  hostIp : String := ""
  portNum : UInt32 := 0
  trustedProxies : List String := []
  routes : List Route := []
  cors : Option Cors := none
deriving DecidableEq

namespace ApiServer

def record : Wire.Record ApiServer ApiServer :=
  (Wire.Record.start ApiServer.mk)
    |>.text "hostIp" ApiServer.hostIp
    |>.defaulted "portNum" ApiServer.portNum .word32 0
    |>.briefList "trustedProxies" ApiServer.trustedProxies .text
    |>.list "routes" ApiServer.routes Route.codec
    |>.optional "cors" ApiServer.cors Cors.codec

def codec : Wire.Codec ApiServer := record.codec "ApiServerConfig"

end ApiServer

structure WebRoute where
  path : String := ""
  serverType : String := ""
  publicPath : Option String := none
  appPort : Option UInt32 := none
  command : Option String := none
deriving DecidableEq

namespace WebRoute

def record : Wire.Record WebRoute WebRoute :=
  (Wire.Record.start WebRoute.mk)
    |>.text "path" WebRoute.path
    |>.text "serverType" WebRoute.serverType
    |>.optionalText "publicPath" WebRoute.publicPath
    |>.optional "appPort" WebRoute.appPort .word32
    |>.optionalText "command" WebRoute.command

def codec : Wire.Codec WebRoute := record.codec "WebRoute"

end WebRoute

structure WebServer where
  hostIp : String := ""
  portNum : UInt32 := 0
  routes : List WebRoute := []
deriving DecidableEq

namespace WebServer

def record : Wire.Record WebServer WebServer :=
  (Wire.Record.start WebServer.mk)
    |>.text "hostIp" WebServer.hostIp
    |>.defaulted "portNum" WebServer.portNum .word32 0
    |>.list "routes" WebServer.routes WebRoute.codec

def codec : Wire.Codec WebServer := record.codec "WebServerConfig"

end WebServer

/-! ## Storage and agent -/

structure Pool where
  maxConnections : Option UInt32 := none
  minConnections : Option UInt32 := none
  maxIdleTime : Option String := none
  connectionTimeout : Option String := none
deriving DecidableEq

namespace Pool

def record : Wire.Record Pool Pool :=
  (Wire.Record.start Pool.mk)
    |>.optional "maxConnections" Pool.maxConnections .word32
    |>.optional "minConnections" Pool.minConnections .word32
    |>.optionalText "maxIdleTime" Pool.maxIdleTime
    |>.optionalText "connectionTimeout" Pool.connectionTimeout

def codec : Wire.Codec Pool := record.codec "PoolConfig"

end Pool

structure SqlConnection where
  connection : String := ""
  pool : Option Pool := none
deriving DecidableEq

namespace SqlConnection

def record : Wire.Record SqlConnection SqlConnection :=
  (Wire.Record.start SqlConnection.mk)
    |>.text "connection" SqlConnection.connection
    |>.optional "pool" SqlConnection.pool Pool.codec

def codec : Wire.Codec SqlConnection := record.codec "SqlConnection"

end SqlConnection

structure AgentSettings where
  timezone : Option String := none
  pythonVersion : Option String := none
  pythonPackages : List String := []
  requirementsFile : Option String := none
  baseOs : Option String := none
  models : List String := []
  env : List (String × String) := []
deriving DecidableEq

namespace AgentSettings

def record : Wire.Record AgentSettings AgentSettings :=
  (Wire.Record.start AgentSettings.mk)
    |>.optionalText "timezone" AgentSettings.timezone
    |>.optionalText "pythonVersion" AgentSettings.pythonVersion
    |>.briefList "pythonPackages" AgentSettings.pythonPackages .text
    |>.optionalText "requirementsFile" AgentSettings.requirementsFile
    |>.optionalText "baseOs" AgentSettings.baseOs
    |>.briefList "models" AgentSettings.models .text
    |>.briefTable "env" AgentSettings.env .text

def codec : Wire.Codec AgentSettings := record.codec "AgentSettings"

end AgentSettings

/-! ## Workflows -/

structure WorkflowMetadata where
  name : String := ""
  description : Option String := none
  version : String := ""
  targetActionId : String := ""
  workflows : List String := []
deriving DecidableEq

namespace WorkflowMetadata

def record : Wire.Record WorkflowMetadata WorkflowMetadata :=
  (Wire.Record.start WorkflowMetadata.mk)
    |>.text "name" WorkflowMetadata.name
    |>.optionalText "description" WorkflowMetadata.description
    |>.text "version" WorkflowMetadata.version
    |>.text "targetActionId" WorkflowMetadata.targetActionId
    |>.briefList "workflows" WorkflowMetadata.workflows .text

def codec : Wire.Codec WorkflowMetadata := record.codec "WorkflowMetadata"

end WorkflowMetadata

structure Settings where
  apiServerMode : Bool := false
  webServerMode : Bool := false
  hostIp : Option String := none
  portNum : Option UInt32 := none
  apiServer : Option ApiServer := none
  webServer : Option WebServer := none
  input : Option InputSettings := none
  sqlConnections : List (String × SqlConnection) := []
  rateLimitMax : Option UInt32 := none
  environment : Option String := none
  agentSettings : Option AgentSettings := none
deriving DecidableEq

namespace Settings

def record : Wire.Record Settings Settings :=
  (Wire.Record.start Settings.mk)
    |>.flag "apiServerMode" Settings.apiServerMode
    |>.flag "webServerMode" Settings.webServerMode
    |>.optionalText "hostIp" Settings.hostIp
    |>.optional "portNum" Settings.portNum .word32
    |>.optional "apiServer" Settings.apiServer ApiServer.codec
    |>.optional "webServer" Settings.webServer WebServer.codec
    |>.optional "input" Settings.input InputSettings.codec
    |>.briefTable "sqlConnections" Settings.sqlConnections SqlConnection.codec
    |>.optional "rateLimitMax" Settings.rateLimitMax .word32
    |>.optionalText "environment" Settings.environment
    |>.optional "agentSettings" Settings.agentSettings AgentSettings.codec

def codec : Wire.Codec Settings := record.codec "WorkflowSettings"

/-- Whether a connection of this name is set up. -/
def hasConnection (s : Settings) (name : String) : Bool :=
  s.sqlConnections.any fun c => c.1 == name

end Settings

structure Workflow where
  apiVersion : String := ""
  kind : String := ""
  metadata : WorkflowMetadata := {}
  settings : Settings := {}
  resources : List Resource := []

namespace Workflow

def record : Wire.Record Workflow Workflow :=
  (Wire.Record.start Workflow.mk)
    |>.text "apiVersion" Workflow.apiVersion
    |>.text "kind" Workflow.kind
    |>.defaulted "metadata" Workflow.metadata WorkflowMetadata.codec {}
    |>.defaulted "settings" Workflow.settings Settings.codec {}
    |>.list "resources" Workflow.resources Resource.codec

def codec : Wire.Codec Workflow := record.codec "Workflow"

/-- The first resource with an action id. -/
def resource? (w : Workflow) (actionId : String) : Option Resource :=
  w.resources.find? fun r => r.actionId == actionId

end Workflow

end FlowCheck
