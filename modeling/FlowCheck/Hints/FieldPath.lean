import FlowCheck.Text.Pieces

/-!
# Field paths

A field is named by a dotted path such as `settings.apiServer.routes.0.path`.  Tables are looked
up by the path without its array positions (`normalize`), and a key of a table stands for every
path that ends in it at a point (`endsIn`).
-/

namespace FlowCheck
namespace FieldPath

/-- A segment that names something: not empty, not the root, and no array position. -/
def isName (segment : String) : Bool :=
  !segment.isEmpty && segment != "(root)" && !segment.toList.all Char.isDigit

/-- The named segments of a path, joined by points. -/
def normalize (field : String) : String :=
  Text.join "." ((Text.pieces '.' field).filter isName)

/-- The path is `key`, or ends in `key` behind a point. -/
def endsIn (path key : String) : Bool :=
  path == key || ('.' :: key.toList).isSuffixOf path.toList

/-- The last segment of a path. -/
def last (path : String) : String := ((Text.pieces '.' path).getLast?).getD ""

/-- A path below another one, either of which may be empty. -/
def join (parent child : String) : String :=
  if parent.isEmpty then child
  else if child.isEmpty then parent
  else parent ++ "." ++ child

end FieldPath
end FlowCheck
