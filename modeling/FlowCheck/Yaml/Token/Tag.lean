import FlowCheck.Json.Reader
import FlowCheck.Yaml.Token

/-!
# Tags and their handles

A tag is written in full between angle brackets, or behind a handle: one exclamation mark, two, or
two with a word between them.  Characters of a tag that may not be written as they are stand as
octets in hexadecimal behind a percent sign.
-/

namespace FlowCheck
namespace Yaml
namespace Tag

/-- A character of a tag; the comma and the square brackets only in a tag written in full. -/
def isTagChar (full : Bool) (c : Char) : Bool :=
  isWordChar c || ";/?:@&=+$.%!~*'()".toList.contains c ||
    (full && (c == ',' || c == '[' || c == ']'))

/-- In which text a tag stands. -/
inductive Use where
  | node
  | directive
deriving DecidableEq

namespace Use

def handleContext : Use → Context
  | node => .tag
  | directive => .tagDirectiveHandle

def uriContext : Use → Context
  | node => .tagUri
  | directive => .tagDirectiveUri

end Use

/-! ## Escaped octets -/

/-- The number of octets of a character that begins with this one. -/
def widthOf? (octet : Nat) : Option Nat :=
  if octet < 0x80 then some 1
  else if octet / 0x20 = 6 then some 2
  else if octet / 0x10 = 14 then some 3
  else if octet / 8 = 30 then some 4
  else none

/-- One escaped octet. -/
def octet (use : Use) (start : Mark) : Reader Nat := do
  match (← get).here with
  | '%' :: a :: b :: _ =>
    match Json.hexValue? a, Json.hexValue? b with
    | some a, some b => pure (a * 16 + b)
    | _, _ => Reader.fail .badOctet use.uriContext start
  | _ => Reader.fail .badOctet use.uriContext start

/-- The octets of a character behind its first, all escaped. -/
def trailingOctets (use : Use) (start : Mark) : Nat → Reader Octets
  | 0 => pure []
  | n + 1 => do
    let o ← octet use start
    unless o / 0x40 = 2 do Reader.fail .badTrailingOctet use.uriContext start
    Reader.advance 3
    pure (o.toUInt8 :: (← trailingOctets use start n))

/-- The octets of an escaped character. -/
def escaped (use : Use) (start : Mark) : Reader Octets := do
  let o ← octet use start
  match widthOf? o with
  | none => Reader.fail .badLeadingOctet use.uriContext start
  | some width =>
    Reader.advance 3
    pure (o.toUInt8 :: (← trailingOctets use start (width - 1)))

/-- The characters of a tag up to the first that cannot belong to it.  Every round takes a
character, so that `fuel` may be the length of the line. -/
def tagChars (use : Use) (full : Bool) (start : Mark) : Nat → Reader Octets
  | 0 => pure []
  | fuel + 1 => do
    match ← Reader.peek? with
    | none => pure []
    | some c =>
      if !isTagChar full c then pure []
      else if c = '%' then
        let front ← escaped use start
        pure (front ++ (← tagChars use full start fuel))
      else
        Reader.advance 1
        pure (c.toNat.toUInt8 :: (← tagChars use full start fuel))

/-- The characters of a tag, of which there must be one. -/
def uri (use : Use) (full : Bool) (start : Mark) : Reader Octets := do
  let os ← tagChars use full start (← get).here.length
  if os.isEmpty then Reader.fail .missingUri use.uriContext start else pure os

/-! ## Handles and tags -/

/-- An exclamation mark, a word behind it, and a second mark if there is one. -/
def handleText (use : Use) (start : Mark) : Reader (List Char) := do
  unless (← Reader.peek?) = some '!' do Reader.fail .missingMark use.handleContext start
  Reader.advance 1
  let word ← Reader.span isWordChar
  if (← Reader.peek?) = some '!' then
    Reader.advance 1
    pure ('!' :: word ++ ['!'])
  else pure ('!' :: word)

/-- The handle that a directive declares: a single mark, or a word between two. -/
def declaredHandle (start : Mark) : Reader String := do
  let text ← handleText .directive start
  if text.length = 1 || text.getLast? = some '!' then pure (String.ofList text)
  else Reader.fail .missingMark .tagDirectiveHandleEnd start

/-- A tag in full, between angle brackets. -/
def fullName (start : Mark) : Reader TagName := do
  Reader.advance 2
  let rest ← uri .node true start
  unless (← Reader.peek?) = some '>' do Reader.fail .missingClose .tag start
  Reader.advance 1
  pure ⟨"", rest⟩

/-- A tag behind a handle; without a second mark the word belongs to the tag, and a single mark
alone is a tag of its own. -/
def shortName (start : Mark) : Reader TagName := do
  let text ← handleText .node start
  if 1 < text.length && text.getLast? = some '!' then
    pure ⟨String.ofList text, ← uri .node false start⟩
  else
    let rest ← tagChars .node false start (← get).here.length
    match octets (String.ofList text.tail) ++ rest with
    | [] => pure ⟨"", octets "!"⟩
    | os => pure ⟨"!", os⟩

/-- A tag in front of a node.  A blank, or inside brackets a comma, follows it. -/
def name (flow : Bool) : Reader TagName := do
  let start := (← get).mark
  let tag ← if (← get).here[1]? = some '<' then fullName start else shortName start
  let c ← get
  if c.blankAt 0 || (flow && c.peek? = some ',') then pure tag
  else Reader.fail .missingBlankOrBreak .tag start

end Tag
end Yaml
end FlowCheck
