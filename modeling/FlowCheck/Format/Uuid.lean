import FlowCheck.Text.Pieces

/-!
# UUIDs

Five groups of hexadecimal digits with hyphens between them, alone, in braces or as a URN; or the 32
digits without hyphens.
-/

namespace FlowCheck
namespace Format

/-- A hexadecimal digit of either case. -/
def isHexDigit (c : Char) : Bool :=
  c.isDigit || ('a' ≤ c && c ≤ 'f') || ('A' ≤ c && c ≤ 'F')

/-- The lengths of the groups of a UUID. -/
def uuidGroups : List Nat := [8, 4, 4, 4, 12]

/-- The groups with a hyphen between each two. -/
def isHyphenated (cs : List Char) : Bool :=
  let groups := Text.splitAt '-' cs
  groups.map List.length == uuidGroups && groups.all fun g => g.all isHexDigit

/-- What a hyphenated UUID may stand in: nothing, braces, or a URN of either case. -/
def uuidInside (cs : List Char) : List Char :=
  match cs with
  | '\x7b' :: rest => if rest.getLast? = some '\x7d' then rest.dropLast else cs
  | _ =>
    if (cs.take 9).map Char.toLower = "urn:uuid:".toList then cs.drop 9 else cs

def isUuid (cs : List Char) : Bool :=
  (cs.length == 32 && cs.all isHexDigit) || isHyphenated (uuidInside cs)

end Format
end FlowCheck
