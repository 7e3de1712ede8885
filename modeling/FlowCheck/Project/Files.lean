import FlowCheck.Project.Path

/-!
# Files

What a project is read from.  `Files` is whatever answers with the text of a file and with the
entries of a directory.  A `Tree` is a directory held in memory; paths into it are resolved name by
name, so that a name behind one that is missing, or behind a file, leads nowhere.
-/

namespace FlowCheck

/-- Why there is no text at a path. -/
inductive ReadFailure where
  | missing
  | notADirectory
  | isADirectory
  | notUtf8
deriving DecidableEq

def ReadFailure.text : ReadFailure → String
  | missing => "No such file or directory (os error 2)"
  | notADirectory => "Not a directory (os error 20)"
  | isADirectory => "Is a directory (os error 21)"
  | notUtf8 => "stream did not contain valid UTF-8"

/-- An entry of a directory: its name, and whether it is a file. -/
structure Entry where
  name : String
  isFile : Bool
deriving DecidableEq

structure Files where
  /-- The text of the file at a path. -/
  read : String → Except ReadFailure String
  /-- The entries of the directory at a path, in any order; none if no directory is there. -/
  entries? : String → Option (List Entry)

/-! ## Trees in memory -/

inductive Tree where
  | file (content : ByteArray)
  | directory (entries : List (String × Tree))

namespace Tree

/-- The entries of a directory; a file has none. -/
def children : Tree → List (String × Tree)
  | file _ => []
  | directory entries => entries

/-- Puts an entry into a directory, in place of one of the same name. -/
def put (t : Tree) (name : String) (child : Tree) : Tree :=
  .directory ((name, child) :: t.children.filter fun e => e.1 != name)

/-- Puts a tree at the place with the given names, with directories around it. -/
def insert (child : Tree) : List String → Tree → Tree
  | [], _ => child
  | name :: names, t =>
    t.put name (insert child names ((t.children.lookup name).getD (.directory [])))

/-- Puts a tree at a path. -/
def insertAt (t : Tree) (path : String) (child : Tree) : Tree :=
  insert child ((Path.names path).filter fun name => !Path.isIdle name) t

/-- The tree at the end of a row of names, inside the directories around it, the innermost first. -/
def walk : (around : List Tree) → Tree → List String → Except ReadFailure Tree
  | _, t, [] => .ok t
  | _, .file _, _ :: _ => .error .notADirectory
  | around, .directory entries, name :: names =>
    if Path.isIdle name then walk around (.directory entries) names
    else if name = ".." then
      match around with
      | [] => .error .missing
      | t :: ts => walk ts t names
    else match entries.lookup name with
      | some t => walk (.directory entries :: around) t names
      | none => .error .missing

/-- The tree at a path; an absolute path leads out of the tree, and an empty one nowhere. -/
def find (t : Tree) (path : String) : Except ReadFailure Tree :=
  match Path.names path with
  | [] | "" :: _ => .error .missing
  | names => walk [] t names

/-- The text of the file at a path. -/
def read (t : Tree) (path : String) : Except ReadFailure String := do
  match ← t.find path with
  | .directory _ => throw .isADirectory
  | .file content =>
    match String.fromUTF8? content with
    | some text => pure text
    | none => throw .notUtf8

/-- The entries of the directory at a path. -/
def entries? (t : Tree) (path : String) : Option (List Entry) :=
  match t.find path with
  | .ok (.directory entries) =>
    some (entries.map fun (name, child) => ⟨name, child matches .file _⟩)
  | _ => none

/-- The tree as files. -/
def files (t : Tree) : Files := ⟨t.read, t.entries?⟩

end Tree

end FlowCheck
