import FlowCheck.Fault
import FlowCheck.Hints.FieldPath
import FlowCheck.Number.Numeral

/-!
# Known options

The values that enumerated fields may take, the paths of those fields, and the look-up of a
field's options by its path.
-/

namespace FlowCheck

/-- One of the values of an enumerated field. -/
inductive EnumOption where
  | text (s : String)
  | number (n : Int)
deriving DecidableEq

namespace EnumOption

def name : EnumOption → String
  | text s => s
  | number n => toString n

/-- A number is meant by every numeral for it. -/
def isMeantBy (candidate : String) : EnumOption → Bool
  | text s => s == candidate
  | number n => Numeral.int64? candidate.toList == some n

end EnumOption

/-- The values of an enumerated field, in order. -/
abbrev Options := List EnumOption

namespace Options

/-- The values between brackets. -/
def render (options : Options) : String :=
  "[" ++ Text.join ", " (options.map EnumOption.name) ++ "]"

def allows (options : Options) (candidate : String) : Bool :=
  options.any (EnumOption.isMeantBy candidate)

def ofTexts (texts : List String) : Options := texts.map .text

/-! ## The values -/

def httpMethods : Options := ofTexts ["GET", "POST", "PUT", "DELETE", "PATCH"]

def chatBackends : Options := ofTexts
  ["ollama", "openai", "anthropic", "google", "cohere", "mistral", "together", "perplexity",
    "groq", "deepseek"]

def contextLengths : Options :=
  [4096, 8192, 16384, 32768, 65536, 131072, 262144].map .number

def sqlFormats : Options := ofTexts ["json", "csv", "table"]

def apiVersions : Options := ofTexts ["kdeps.io/v1"]

def workflowKinds : Options := ofTexts ["Workflow"]

def resourceKinds : Options := ofTexts ["Resource"]

def inputSources : Options := ofTexts ["api", "audio", "video", "telephony"]

def telephonyTypes : Options := ofTexts ["local", "online"]

def speechModes : Options := ofTexts ["online", "offline"]

def transcriberOutputs : Options := ofTexts ["text", "media"]

def onlineProviders : Options := ofTexts
  ["openai-whisper", "google-stt", "aws-transcribe", "deepgram", "assemblyai"]

def offlineEngines : Options := ofTexts ["whisper", "faster-whisper", "vosk", "whisper-cpp"]

/-! ## The fields -/

/-- The paths in which enumerated fields end. -/
def fields : List (String × Options) :=
  [("apiVersion", apiVersions),
    ("run.chat.backend", chatBackends),
    ("run.chat.contextLength", contextLengths),
    ("run.httpClient.method", httpMethods),
    ("run.sql.format", sqlFormats),
    ("run.restrictToHttpMethods", httpMethods),
    ("restrictToHttpMethods", httpMethods),
    ("settings.apiServer.routes.methods", httpMethods),
    ("routes.methods", httpMethods),
    ("input.sources", inputSources),
    ("telephony.type", telephonyTypes),
    ("transcriber.mode", speechModes),
    ("transcriber.output", transcriberOutputs),
    ("activation.mode", speechModes),
    ("online.provider", onlineProviders),
    ("offline.engine", offlineEngines)]

/-- A last segment that names an enumerated field: alone in a document of its kind, or anywhere
behind a segment of its context. -/
structure ContextWord where
  word : String
  kind : DocumentKind
  context : List String
  options : Options

def contextWords : List ContextWord :=
  [⟨"backend", .resource, ["chat"], chatBackends⟩,
    ⟨"method", .resource, ["httpClient"], httpMethods⟩,
    ⟨"contextLength", .resource, ["chat"], contextLengths⟩,
    ⟨"format", .resource, ["sql"], sqlFormats⟩,
    ⟨"methods", .workflow, ["routes", "apiServer"], httpMethods⟩]

/-- The options of a field whose last segment is known in its context. -/
def inContext (field normalized : String) (kind : DocumentKind) : Option Options :=
  (contextWords.find? fun w => w.word == FieldPath.last normalized).bind fun w =>
    if normalized.toList.contains '.' then
      if (Text.pieces '.' field).any w.context.contains then some w.options else none
    else if w.kind = kind then some w.options else none

/-- The options of the field at a path of a document.  The kind of a document depends on which
document it is; inline resources are resources. -/
def ofField? (field : String) (kind : DocumentKind) : Option Options :=
  let normalized := FieldPath.normalize field
  if normalized = "" then none
  else if normalized = "kind" then
    match kind with
    | .workflow => some workflowKinds
    | .resource => some resourceKinds
  else if normalized = "resources.kind" then some resourceKinds
  else match fields.find? fun f => FieldPath.endsIn normalized f.1 with
    | some f => some f.2
    | none => inContext field normalized kind

end Options
end FlowCheck
