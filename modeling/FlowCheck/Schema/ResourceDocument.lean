import FlowCheck.Schema.Basic

/-!
# Resource documents

The shape of a resource document, which is also that of a resource inside a workflow document.
-/

namespace FlowCheck
namespace Schema

def resourceMetadata : Schema :=
  .record false ["actionId"]
    [("actionId", .text { minLength := 1 }), ("category", plainText), ("description", plainText),
      ("name", plainText), ("requires", texts)]

def responseMeta : Schema :=
  openRecord
    [("backend", plainText), ("headers", .table plainText), ("model", plainText)]

def apiResponse : Schema :=
  openRecord
    [("meta", responseMeta), ("response", any), ("success", .boolean)]

def chatMessage : Schema :=
  openRecord
    [("prompt", plainText), ("role", plainText)]

/-- A tool that the model may call. -/
def chatTool : Schema :=
  .record false ["name"]
    [("description", plainText), ("name", plainText), ("parameters", .table any),
      ("script", plainText)]

def chat : Schema :=
  openRecord
    [("apiKey", plainText),
      ("backend", oneOf ["ollama", "openai", "anthropic", "google", "cohere", "mistral",
        "together", "perplexity", "groq", "deepseek"]), ("baseUrl", plainText),
      ("contextLength", .integer {} [4096, 8192, 16384, 32768, 65536, 131072, 262144]),
      ("files", texts), ("jsonResponse", .boolean), ("jsonResponseKeys", texts),
      ("maxTokens", atLeast 1), ("model", plainText), ("prompt", plainText), ("role", plainText),
      ("scenario", .list chatMessage), ("temperature", numberWithin 0 2),
      ("timeoutDuration", plainText), ("tools", .list chatTool)]

def exec : Schema :=
  openRecord
    [("args", texts), ("command", plainText), ("env", .table plainText),
      ("timeoutDuration", plainText), ("workingDir", plainText)]

def httpCache : Schema :=
  openRecord
    [("enabled", .boolean), ("ttl", plainText)]

def retry : Schema :=
  openRecord
    [("backoff", plainText), ("maxAttempts", atLeast 0)]

def httpClient : Schema :=
  openRecord
    [("cache", httpCache), ("data", any), ("followRedirects", .boolean),
      ("headers", .table plainText), ("method", oneOf ["GET", "POST", "PUT", "DELETE", "PATCH"]),
      ("proxy", plainText), ("retry", retry), ("timeoutDuration", plainText), ("url", plainText)]

def onError : Schema :=
  openRecord
    [("action", oneOf ["continue", "fail", "retry"]), ("fallback", any), ("maxRetries", atLeast 0),
      ("retryDelay", plainText)]

def preflightError : Schema :=
  openRecord
    [("code", within 100 599), ("message", plainText)]

def preflightCheck : Schema :=
  openRecord
    [("error", preflightError), ("validations", texts)]

def python : Schema :=
  openRecord
    [("args", texts), ("script", plainText), ("scriptFile", plainText),
      ("timeoutDuration", plainText), ("venvName", plainText)]

def sqlQuery : Schema :=
  openRecord
    [("name", plainText), ("params", .list any), ("query", plainText)]

def sql : Schema :=
  openRecord
    [("connection", plainText), ("connectionName", plainText),
      ("format", oneOf ["json", "csv", "table"]), ("maxRows", atLeast 0), ("params", .list any),
      ("queries", .list sqlQuery), ("query", plainText), ("timeoutDuration", plainText),
      ("transaction", .boolean)]

def speech : Schema :=
  openRecord
    [("mode", plainText), ("outputFile", plainText), ("outputFormat", plainText),
      ("text", plainText), ("voice", plainText)]

/-- A condition over the request data. -/
def customRule : Schema :=
  .record false ["expr"]
    [("expr", plainText), ("message", plainText)]

/-- A rule for one field of the request data. -/
def fieldRule : Schema :=
  .record false ["field"]
    [("enum", .list any), ("field", plainText), ("max", anyNumber), ("maxItems", atLeast 0),
      ("maxLength", atLeast 0), ("maximum", anyNumber), ("message", plainText), ("min", anyNumber),
      ("minItems", atLeast 0), ("minLength", atLeast 0), ("minimum", anyNumber),
      ("pattern", plainText),
      ("type", oneOf ["string", "integer", "number", "boolean", "array", "object", "email", "url",
        "uuid", "date"])]

def validation : Schema :=
  openRecord
    [("customRules", .list customRule), ("required", texts), ("rules", .list fieldRule)]

/-- What a resource runs. -/
def run : Schema :=
  .record true []
    [("allowedHeaders", texts), ("allowedParams", texts), ("apiResponse", apiResponse),
      ("chat", chat), ("exec", exec), ("expr", texts), ("exprAfter", texts), ("exprBefore", texts),
      ("httpClient", httpClient), ("onError", onError), ("preflightCheck", preflightCheck),
      ("python", python),
      ("restrictToHttpMethods", .list (oneOf ["GET", "POST", "PUT", "DELETE", "PATCH"])),
      ("restrictToRoutes", .list rootedText), ("skipCondition", texts), ("sql", sql),
      ("tts", speech), ("validation", validation)]

/-- A resource document. -/
def resource : Schema :=
  .record true ["metadata", "run"]
    [("apiVersion", oneOf ["kdeps.io/v1"]), ("items", texts), ("kind", oneOf ["Resource"]),
      ("metadata", resourceMetadata), ("run", run)]

end Schema
end FlowCheck
