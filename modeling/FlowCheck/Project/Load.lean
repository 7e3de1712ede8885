import FlowCheck.Document
import FlowCheck.Project.Files

/-!
# Projects

A project is a workflow file and the directory `resources` beside it.  Every file of that directory
whose name ends in `.yaml` or `.yml` holds one more resource of the workflow; they come behind its
own, in the order of their names.  The first file that cannot be read decides the outcome.
-/

namespace FlowCheck
namespace Project

/-- The text of a file. -/
def readText (files : Files) (path : String) : Except Fault String :=
  (files.read path).mapError fun failure => .unreadable path failure.text

/-- The resource in a file. -/
def loadResource (files : Files) (withSchema : Bool) (path : String) : Except Fault Resource := do
  Document.resourceOfText withSchema path (← readText files path)

/-! ## Directories of resources -/

def isResourceName (name : String) : Bool :=
  Path.hasEnding ".yaml" name || Path.hasEnding ".yml" name

/-- The names of the resource files among the entries of a directory, in order. -/
def resourceNames (entries : List Entry) : List String :=
  ((entries.filter fun e => e.isFile && isResourceName e.name).map Entry.name).mergeSort
    fun a b => decide (a ≤ b)

/-- The resource in a file of a directory. -/
def loadEntry (files : Files) (withSchema : Bool) (directory name : String) :
    Except Fault Resource :=
  let path := Path.join directory name
  (loadResource files withSchema path).mapError (.resourceFile path)

/-- The resources in the files of a directory; none where there is no directory. -/
def loadResources (files : Files) (withSchema : Bool) (directory : String) :
    Except Fault (List Resource) :=
  match files.entries? directory with
  | some entries => (resourceNames entries).mapM (loadEntry files withSchema directory)
  | none => .ok []

/-! ## Workflows -/

/-- The directory with the further resources of a workflow file. -/
def resourceDirectory (path : String) : String :=
  Path.join ((Path.parent? path).getD ".") "resources"

/-- The workflow in a file, with all its resources. -/
def load (files : Files) (withSchema : Bool) (path : String) : Except Fault Workflow := do
  let w ← Document.workflowOfText withSchema path (← readText files path)
  let further ← loadResources files withSchema (resourceDirectory path)
  pure { w with resources := w.resources ++ further }

/-- The workflow in a file, if it satisfies every rule. -/
def loadValid (files : Files) (withSchema : Bool) (path : String) : Except Fault Workflow := do
  let w ← load files withSchema path
  w.check
  pure w

end Project
end FlowCheck
