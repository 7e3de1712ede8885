import FlowCheck.Schema.Basic

/-!
# Workflow documents

The shape of a workflow document, from its parts to the whole.  Its resources only have to be
objects here: each is held against the shape of a resource document on its own.
-/

namespace FlowCheck
namespace Schema

def workflowMetadata : Schema :=
  .record false ["name"]
    [("description", plainText), ("name", plainText), ("targetActionId", plainText),
      ("version", plainText), ("workflows", texts)]

def agentSettings : Schema :=
  openRecord
    [("baseOs", plainText), ("env", .table plainText), ("models", texts),
      ("pythonPackages", texts), ("pythonVersion", plainText), ("requirementsFile", plainText),
      ("timezone", plainText)]

def cors : Schema :=
  openRecord
    [("allowCredentials", .boolean), ("allowHeaders", texts), ("allowMethods", texts),
      ("allowOrigins", texts), ("enableCors", .boolean)]

def route : Schema :=
  .record false ["path"]
    [("methods", .list (oneOf ["GET", "POST", "PUT", "DELETE", "PATCH"])), ("path", rootedText)]

def apiServer : Schema :=
  openRecord
    [("cors", cors), ("hostIp", plainText), ("portNum", within 0 65535), ("routes", .list route),
      ("trustedProxies", texts)]

def offlineSpeech : Schema :=
  openRecord
    [("engine", oneOf ["whisper", "faster-whisper", "vosk", "whisper-cpp"]), ("model", plainText)]

def onlineSpeech : Schema :=
  openRecord
    [("apiKey", plainText),
      ("provider", oneOf ["openai-whisper", "google-stt", "aws-transcribe", "deepgram",
        "assemblyai"]), ("region", plainText)]

/-- The phrase that wakes the workflow. -/
def activation : Schema :=
  openRecord
    [("chunkSeconds", atLeast 1), ("mode", oneOf ["online", "offline"]),
      ("offline", offlineSpeech), ("online", onlineSpeech), ("phrase", plainText),
      ("sensitivity", numberWithin 0 1)]

def telephony : Schema :=
  openRecord
    [("device", plainText), ("provider", plainText), ("type", oneOf ["local", "online"])]

/-- How speech is written down. -/
def transcriber : Schema :=
  openRecord
    [("language", plainText), ("mode", oneOf ["online", "offline"]), ("offline", offlineSpeech),
      ("online", onlineSpeech), ("output", oneOf ["text", "media"])]

def input : Schema :=
  openRecord
    [("activation", activation), ("sources", .list (oneOf ["api", "audio", "video", "telephony"])),
      ("telephony", telephony), ("transcriber", transcriber)]

def pool : Schema :=
  openRecord
    [("connectionTimeout", plainText), ("maxConnections", atLeast 1), ("maxIdleTime", plainText),
      ("minConnections", atLeast 0)]

def sqlConnection : Schema :=
  .record false ["connection"]
    [("connection", plainText), ("pool", pool)]

def webRoute : Schema :=
  openRecord
    [("appPort", within 1 65535), ("command", plainText), ("path", rootedText),
      ("publicPath", plainText), ("serverType", oneOf ["static", "app"])]

def webServer : Schema :=
  openRecord
    [("hostIp", plainText), ("portNum", within 0 65535), ("routes", .list webRoute)]

def settings : Schema :=
  openRecord
    [("agentSettings", agentSettings), ("apiServer", apiServer), ("apiServerMode", .boolean),
      ("environment", plainText), ("hostIp", plainText), ("input", input),
      ("portNum", within 0 65535), ("rateLimitMax", atLeast 0),
      ("sqlConnections", .table sqlConnection), ("webServer", webServer),
      ("webServerMode", .boolean)]

/-- A workflow document. -/
def workflow : Schema :=
  .record true ["apiVersion", "kind", "metadata"]
    [("apiVersion", oneOf ["kdeps.io/v1"]), ("kind", oneOf ["Workflow"]),
      ("metadata", workflowMetadata), ("resources", .list (.table any)), ("settings", settings)]

end Schema
end FlowCheck
