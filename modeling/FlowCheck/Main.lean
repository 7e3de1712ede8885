import FlowCheck.Command.Report

/-!
# The program

The files that a command needs are read from disk, the command is done on what was read, and its
report is printed.
-/

namespace FlowCheck
namespace Main

/-- What is known about the files on disk. -/
structure Snapshot where
  texts : List (String × Except ReadFailure String) := []
  directories : List (String × List Entry) := []

/-- What is known, as files. -/
def Snapshot.files (s : Snapshot) : Files where
  read path := (s.texts.lookup path).getD (.error .missing)
  entries? path := s.directories.lookup path

/-- The names in a directory on disk, if there is one. -/
def readNames (path : String) : IO (Option (List String)) := do
  if path.isEmpty then return none
  try
    let place := (← IO.currentDir) / path
    pure (some ((← place.readDir).toList.map fun e => e.fileName))
  catch _ => pure none

/-- The text of a file on disk. -/
def readText (path : String) : IO (Except ReadFailure String) := do
  if (← readNames path).isSome then return .error .isADirectory
  try
    let content ← IO.FS.readBinFile path
    match String.fromUTF8? content with
    | some text => pure (.ok text)
    | none => pure (.error .notUtf8)
  catch
    | .inappropriateType .. => pure (.error .notADirectory)
    | _ => pure (.error .missing)

/-- Adds a file to what is known. -/
def addText (s : Snapshot) (path : String) : IO Snapshot := do
  pure { s with texts := (path, ← readText path) :: s.texts }

/-- Adds a directory and its resource files to what is known. -/
def addDirectory (s : Snapshot) (path : String) : IO Snapshot := do
  match ← readNames path with
  | none => pure s
  | some names =>
    let entries : List Entry ← names.mapM fun name => do
      pure ⟨name, (← readNames (Path.join path name)).isNone⟩
    let s := { s with directories := (path, entries) :: s.directories }
    (Project.resourceNames entries).foldlM (fun s name => addText s (Path.join path name)) s

/-- Adds a workflow file and the directory beside it to what is known. -/
def addWorkflow (s : Snapshot) (path : String) : IO Snapshot := do
  addDirectory (← addText s path) (Project.resourceDirectory path)

/-- What a command needs to know. -/
def snapshot : Command → IO Snapshot
  | .version => pure {}
  | .validate _ paths => paths.foldlM addWorkflow {}
  | .info path => addWorkflow {} path
  | .rules path input => do addText (← addText {} path) input

/-- The report on the command that the arguments stand for. -/
def report (arguments : List String) : IO Report := do
  match Command.ofArguments false arguments with
  | none => pure .misuse
  | some command => pure (command.run (← snapshot command).files)

end Main
end FlowCheck

def main (arguments : List String) : IO UInt32 := do
  let report ← FlowCheck.Main.report arguments
  IO.print report.output
  IO.eprint report.failure
  pure report.status.toUInt32
