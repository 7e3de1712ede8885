import FlowCheck.Fault
import FlowCheck.Model.Action
import FlowCheck.Model.FieldRule

/-!
# Run blocks

What a resource does: at most one primary action, possibly an API response, and the options that
every kind of run shares.  In a document the actions stand side by side under keys of their own,
so a block may name several; it is then refused (`Run.ofParts`).  A run can also be put together
step by step (`RunStep`), and a second primary action fails in the same way.
-/

namespace FlowCheck

/-! ## Shared options -/

structure ErrorResponse where
  code : Option UInt16 := none
  message : String := ""

namespace ErrorResponse

def record : Wire.Record ErrorResponse ErrorResponse :=
  (Wire.Record.start ErrorResponse.mk)
    |>.optional "code" ErrorResponse.code .word16
    |>.text "message" ErrorResponse.message

def codec : Wire.Codec ErrorResponse := record.codec "ErrorResponse"

end ErrorResponse

structure PreflightCheck where
  validations : List String := []
  error : Option ErrorResponse := none

namespace PreflightCheck

def record : Wire.Record PreflightCheck PreflightCheck :=
  (Wire.Record.start PreflightCheck.mk)
    |>.list "validations" PreflightCheck.validations .text
    |>.optional "error" PreflightCheck.error ErrorResponse.codec

def codec : Wire.Codec PreflightCheck := record.codec "PreflightCheck"

end PreflightCheck

/-- What to do when the action fails: `continue`, `fail` or `retry`. -/
structure OnError where
  action : String := ""
  maxRetries : Option UInt32 := none
  retryDelay : Option String := none
  fallback : Option Json := none

namespace OnError

def record : Wire.Record OnError OnError :=
  (Wire.Record.start OnError.mk)
    |>.text "action" OnError.action
    |>.optional "maxRetries" OnError.maxRetries .word32
    |>.optionalText "retryDelay" OnError.retryDelay
    |>.optional "fallback" OnError.fallback .any

def codec : Wire.Codec OnError := record.codec "OnErrorConfig"

end OnError

structure RunOptions where
  restrictToHttpMethods : List String := []
  restrictToRoutes : List String := []
  allowedHeaders : List String := []
  allowedParams : List String := []
  skipCondition : List String := []
  preflightCheck : Option PreflightCheck := none
  validation : Option ValidationRules := none
  exprBefore : List String := []
  expr : List String := []
  exprAfter : List String := []
  onError : Option OnError := none

namespace RunOptions

def record : Wire.Record RunOptions RunOptions :=
  (Wire.Record.start RunOptions.mk)
    |>.briefList "restrictToHttpMethods" RunOptions.restrictToHttpMethods .text
    |>.briefList "restrictToRoutes" RunOptions.restrictToRoutes .text
    |>.briefList "allowedHeaders" RunOptions.allowedHeaders .text
    |>.briefList "allowedParams" RunOptions.allowedParams .text
    |>.briefList "skipCondition" RunOptions.skipCondition .text
    |>.optional "preflightCheck" RunOptions.preflightCheck PreflightCheck.codec
    |>.optional "validation" RunOptions.validation ValidationRules.codec
    |>.briefList "exprBefore" RunOptions.exprBefore .text
    |>.briefList "expr" RunOptions.expr .text
    |>.briefList "exprAfter" RunOptions.exprAfter .text
    |>.optional "onError" RunOptions.onError OnError.codec

def codec : Wire.Codec RunOptions := record.codec "RunOptions"

end RunOptions

/-! ## Runs -/

/-- What a resource does. -/
structure Run where
  primary : Option Action := none
  apiResponse : Option ApiResponse := none
  options : RunOptions := {}

namespace Run

/-- Neither a primary action nor an API response. -/
def isEmpty (run : Run) : Bool := run.primary.isNone && run.apiResponse.isNone

def chat? (run : Run) : Option Chat :=
  match run.primary with
  | some (.chat c) => some c
  | _ => none

def sql? (run : Run) : Option Sql :=
  match run.primary with
  | some (.sql s) => some s
  | _ => none

def httpClient? (run : Run) : Option HttpClient :=
  match run.primary with
  | some (.httpClient h) => some h
  | _ => none

/-- A second primary action is refused. -/
def setPrimary (run : Run) (action : Action) : Except Wire.Problem Run :=
  match run.primary with
  | some _ => .error .severalPrimaries
  | none => .ok { run with primary := some action }

end Run

/-- A step in putting a run together. -/
inductive RunStep where
  | primary (action : Action)
  | apiResponse (response : ApiResponse)
  | options (options : RunOptions)

namespace Run

def step (run : Run) : RunStep → Except Wire.Problem Run
  | .primary action => run.setPrimary action
  | .apiResponse response => .ok { run with apiResponse := some response }
  | .options options => .ok { run with options := options }

/-- The run that some steps lead to, from an empty one. -/
def build (steps : List RunStep) : Except Wire.Problem Run := steps.foldlM step {}

/-- `build`, with the refusal reported as a fault of the resource. -/
def assemble (steps : List RunStep) : Except Fault Run :=
  (build steps).mapError fun p => .invalidResource p.message

end Run

/-! ## The written form -/

/-- The blocks that a run may name under keys of their own. -/
structure RunParts where
  chat : Option Chat := none
  httpClient : Option HttpClient := none
  sql : Option Sql := none
  python : Option Script := none
  exec : Option Exec := none
  tts : Option Speech := none
  apiResponse : Option ApiResponse := none

namespace RunParts

def record : Wire.Record RunParts RunParts :=
  (Wire.Record.start RunParts.mk)
    |>.optional "chat" RunParts.chat Chat.codec
    |>.optional "httpClient" RunParts.httpClient HttpClient.codec
    |>.optional "sql" RunParts.sql Sql.codec
    |>.optional "python" RunParts.python Script.codec
    |>.optional "exec" RunParts.exec Exec.codec
    |>.optional "tts" RunParts.tts Speech.codec
    |>.optional "apiResponse" RunParts.apiResponse ApiResponse.codec

/-- The primary actions named, in the order of the block. -/
def actions (parts : RunParts) : List Action :=
  [parts.chat.map .chat, parts.httpClient.map .httpClient, parts.sql.map .sql,
    parts.python.map .python, parts.exec.map .exec, parts.tts.map .tts].filterMap id

def ofAction : Action → RunParts
  | .chat c => { chat := some c }
  | .httpClient h => { httpClient := some h }
  | .sql s => { sql := some s }
  | .python p => { python := some p }
  | .exec e => { exec := some e }
  | .tts t => { tts := some t }

end RunParts

namespace Run

/-- The run that the parts of a block make, if they name at most one primary action. -/
def ofParts (parts : RunParts) (options : RunOptions) : Except Wire.Problem Run := do
  let run ← parts.actions.foldlM setPrimary { options := options }
  pure { run with apiResponse := parts.apiResponse }

def parts (run : Run) : RunParts :=
  match run.primary with
  | some action => { RunParts.ofAction action with apiResponse := run.apiResponse }
  | none => { apiResponse := run.apiResponse }

/-- The members with keys of their own are read in place.  The options share the object; their
members are set aside first, so a problem in a part is reported before one in an option. -/
def read (j : Json) : Except Wire.Problem Run :=
  match j with
  | .obj members => do
    let parts ← (RunParts.record.readMembers .inPlace members).toExcept
    let options ← (RunOptions.record.readMembers .setAside members).toExcept
    ofParts parts options
  | j => .error (.wrongType j "struct RawRunConfig")

def write (run : Run) : Json :=
  .object (RunParts.record.writeMembers run.parts ++ RunOptions.record.writeMembers run.options)

def codec : Wire.Codec Run where
  read _ := read
  write := write

end Run

end FlowCheck
