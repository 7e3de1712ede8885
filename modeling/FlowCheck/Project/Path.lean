import FlowCheck.Text.Pieces

/-!
# Paths

A path is text: names with slashes between them.  Slashes and single dots at its end say nothing.
-/

namespace FlowCheck
namespace Path

/-- The names of a path; an absolute path has an empty one in front. -/
def names (path : String) : List String := Text.pieces '/' path

/-- A name that says nothing behind another one. -/
def isIdle (name : String) : Bool := name == "" || name == "."

/-- The names without those at the end that say nothing; the first is kept. -/
def trimEnd : List String → List String
  | [] => []
  | first :: rest => first :: (rest.reverse.dropWhile isIdle).reverse

/-- The path of the given names. -/
def ofNames : List String → String
  | [""] => "/"
  | names => Text.join "/" names

/-- The directory in which a path stands: the path without its last name; none for a path without
a name. -/
def parent? (path : String) : Option String :=
  match trimEnd (names path) with
  | [] | [""] => none
  | [_] => some ""
  | names => some (ofNames (trimEnd names.dropLast))

/-- The path of `name` in a directory. -/
def join (directory name : String) : String :=
  if directory.isEmpty || directory.toList.getLast? == some '/' then directory ++ name
  else directory ++ "/" ++ name

/-- The ending that a name has, with its dot. -/
def hasEnding (ending name : String) : Bool := ending.toList.isSuffixOf name.toList

end Path
end FlowCheck
