import FlowCheck.Rules.Workflow
import FlowCheck.Schema.Check
import FlowCheck.Yaml.Value

/-!
# Typed documents

A text becomes a document, and a document becomes a workflow or a resource by its written form.
With a schema check only a document that violates no schema is read at all; the check never changes
what is read.
-/

namespace FlowCheck
namespace Document

/-- The document that a text from `path` stands for. -/
def ofText (path text : String) : Except Fault Json :=
  (Yaml.read text).mapError fun p => .unreadable path p.message

/-- The typed value of a document from `path`. -/
def read {α : Type} (codec : Wire.Codec α) (kind : DocumentKind) (withSchema : Bool)
    (path : String) (doc : Json) : Except Fault α := do
  if withSchema then kind.check doc
  (codec.read .inPlace doc).mapError fun p => .unreadable path p.message

def readWorkflow (withSchema : Bool) (path : String) (doc : Json) : Except Fault Workflow :=
  read Workflow.codec .workflow withSchema path doc

def readResource (withSchema : Bool) (path : String) (doc : Json) : Except Fault Resource :=
  read Resource.codec .resource withSchema path doc

/-- The workflow of a document, if it satisfies every rule. -/
def readValid (withSchema : Bool) (doc : Json) : Except Fault Workflow := do
  let w ← readWorkflow withSchema "<document>" doc
  w.check
  pure w

/-- The path that stands for a text from nowhere. -/
def inlinePath : String := "<inline>"

/-- The workflow that a text stands for. -/
def workflowOfText (withSchema : Bool) (path text : String) : Except Fault Workflow := do
  readWorkflow withSchema path (← ofText path text)

/-- The resource that a text stands for. -/
def resourceOfText (withSchema : Bool) (path text : String) : Except Fault Resource := do
  readResource withSchema path (← ofText path text)

end Document
end FlowCheck
