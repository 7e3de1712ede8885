import FlowCheck.Command.Arguments
import FlowCheck.Project.Load
import FlowCheck.Request.Check

/-!
# What a command reports

Every command gives a report: the status with which it ends, what it prints, and, if it cannot do
its work at all, the failure.  Workflow files are checked independently of each other and may be
finished in any order; the report has their verdicts in the order of the arguments.
-/

namespace FlowCheck

structure Report where
  status : Nat
  output : String
  failure : String := ""
deriving DecidableEq

namespace Report

/-- Lines as text. -/
def ofLines (lines : List String) : String := String.join (lines.map (· ++ "\n"))

/-- All went well. -/
def success (lines : List String) : Report := ⟨0, ofLines lines, ""⟩

/-- Something was found to be wrong. -/
def refusal (lines : List String) : Report := ⟨1, ofLines lines, ""⟩

/-- The arguments stand for no command. -/
def misuse : Report := ⟨2, "", ""⟩

/-! ## Failures -/

/-- A cause, indented by the given text and then by blanks of the same width. -/
def indented (front : String) (text : String) : String :=
  let pad := String.ofList (front.toList.map fun _ => ' ')
  front ++ Text.join ("\n" ++ pad) (Text.pieces '\n' text)

/-- The number in front of one of several causes. -/
def causeNumber (n : Nat) : String :=
  let digits := toString n
  String.ofList (List.replicate (5 - digits.length) ' ') ++ digits ++ ": "

/-- The causes of a failure, numbered if there are several. -/
def causeLines : List String → List String
  | [] => []
  | [cause] => ["", "Caused by:", indented "    " cause]
  | causes =>
    ["", "Caused by:"] ++
      causes.zipIdx.map fun (cause, n) => indented (causeNumber n) cause

/-- A failure with its causes, from the outermost to the innermost. -/
def failed (message : String) (causes : List String) : Report :=
  ⟨1, "", ofLines (("Error: " ++ message) :: causeLines causes)⟩

end Report

/-- The texts of the faults that caused this one, the nearest first. -/
def Fault.causes : Fault → List String
  | .resourceFile _ source | .resourceFailed _ source => source.text :: source.causes
  | _ => []

namespace Command

def failedWith (f : Fault) : Report := .failed f.text f.causes

/-! ## Checking workflow files -/

/-- The line about one workflow file. -/
def verdictLine (path : String) : Except Fault Workflow → String
  | .ok _ => path ++ ": valid"
  | .error f => "[ERROR] " ++ f.code.name ++ " " ++ path ++ ": " ++ f.text

/-- What came out for one of the files. -/
structure Verdict where
  /-- Which argument the file was. -/
  index : Nat
  path : String
  result : Except Fault Workflow

/-- The report on files that were finished in the given order. -/
def reportVerdicts (finished : List Verdict) : Report :=
  let verdicts := finished.mergeSort fun a b => decide (a.index ≤ b.index)
  let lines := verdicts.map fun v => verdictLine v.path v.result
  if verdicts.all fun v => v.result.isOk then .success lines else .refusal lines

/-- The verdicts on files, each by itself. -/
def verdicts (files : Files) (withSchema : Bool) (paths : List String) : List Verdict :=
  paths.zipIdx.map fun (path, index) => ⟨index, path, Project.loadValid files withSchema path⟩

/-! ## Showing a workflow -/

/-- The server that answers requests, with its routes. -/
def serverLines (api : ApiServer) : List String :=
  ("API server: " ++ api.hostIp ++ ":" ++ toString api.portNum) ::
    api.routes.map fun r => "  " ++ r.path ++ " [" ++ Text.join ", " r.methods ++ "]"

/-- What a resource does: its primary action, and whether it answers requests. -/
def actionNames (run : Run) : List String :=
  (run.primary.map Action.name).toList ++ (if run.apiResponse.isSome then ["apiResponse"] else [])

def resourceLine (r : Resource) : String :=
  "  " ++ r.metadata.actionId ++ " [" ++ r.metadata.name ++ "] " ++
    Text.join "+" (actionNames r.run) ++
    (if r.metadata.requires.isEmpty then "" else
      " requires=" ++ Text.join "," r.metadata.requires)

/-- A workflow at a glance. -/
def workflowLines (w : Workflow) : List String :=
  ["Workflow: " ++ w.metadata.name] ++
    (if w.metadata.version.isEmpty then [] else ["Version: " ++ w.metadata.version]) ++
    (w.metadata.description.map ("Description: " ++ ·)).toList ++
    ["Target: " ++ w.metadata.targetActionId,
      "Resources: " ++ toString w.resources.length] ++
    (w.settings.apiServer.map serverLines).getD [] ++
    ["", "Resources:"] ++ w.resources.map resourceLine

/-! ## Checking request data -/

/-- The line about one finding in request data. -/
def findingLine (d : Diagnostic) : String :=
  "  - " ++ (if d.field.isEmpty then "(rule)" else d.field) ++ " [" ++ d.kind.name ++ "]: " ++
    d.message

/-- The report on request data that were checked for the action `id`. -/
def reportCheck (id : String) : Except Fault Unit → Report
  | .ok () => .success [id ++ ": input valid"]
  | .error f =>
    let found := f.diagnostics
    .refusal (("[ERROR] " ++ f.code.name ++ " " ++ id ++ ":") ::
      (if found.isEmpty then ["  " ++ f.text] else found.map findingLine))

/-- Checks the data in the file `input` against the rules of an action. -/
def checkInput (files : Files) (id : String) (validation : ValidationRules)
    (input : String) : Report :=
  match files.read input with
  | .error failure => .failed ("failed to read " ++ input) [failure.text]
  | .ok text =>
    match Json.readMembersOf text with
    | .error e => .failed (input ++ " must contain a JSON object") [e.message]
    | .ok data => reportCheck id (validation.check ⟨some Evaluator.default⟩ data)

/-! ## Commands -/

/-- The name and the version of the program. -/
def versionLine : String := "kdeps 0.5.0"

/-- Does what a command asks for. -/
def run (files : Files) : Command → Report
  | .version => .success [versionLine]
  | .validate withSchema paths => reportVerdicts (verdicts files withSchema paths)
  | .info path =>
    match Project.load files false path with
    | .ok w => .success (workflowLines w)
    | .error f => failedWith f
  | .rules path input =>
    match Project.loadResource files false path with
    | .error f => failedWith f
    | .ok r =>
      match r.run.options.validation with
      | none => .success [r.metadata.actionId ++ ": no validation rules"]
      | some validation => checkInput files r.metadata.actionId validation input

/-- Does what the arguments ask for. -/
def runArguments (files : Files) (arguments : List String) : Report :=
  match ofArguments false arguments with
  | some command => command.run files
  | none => .misuse

end Command
end FlowCheck
