import FlowCheck.Number.Numeral
import FlowCheck.Yaml.Token.Tag

/-!
# Directives

A directive is a line that begins with a percent sign.  There are two: the version of the language,
and a handle with the beginning of the tags that it stands for.
-/

namespace FlowCheck
namespace Yaml
namespace Directive

/-- The longest number that a version may have, in digits. -/
def versionDigits : Nat := 9

/-- One number of a version. -/
def versionNumber (start : Mark) : Reader Nat := do
  let c ← get
  let digits := c.here.takeWhile Char.isDigit
  if versionDigits < digits.length then
    Reader.advance versionDigits
    Reader.fail .longVersion .versionDirective start
  else if digits.isEmpty then Reader.fail .missingVersion .versionDirective start
  else
    Reader.advance digits.length
    pure (Numeral.valueOf digits)

/-- A version: two numbers with a point between them. -/
def version (start : Mark) : Reader Token.Kind := do
  Reader.skip isBlank
  let major ← versionNumber start
  unless (← Reader.peek?) = some '.' do Reader.fail .missingPoint .versionDirective start
  Reader.advance 1
  pure (.version major (← versionNumber start))

/-- A handle and the beginning of the tags that it stands for. -/
def handle (start : Mark) : Reader Token.Kind := do
  Reader.skip isBlank
  let name ← Tag.declaredHandle start
  unless ((← Reader.peek?).map isBlank).getD false do
    Reader.fail .missingBlank .tagDirective start
  Reader.skip isBlank
  let stem ← Tag.uri .directive true start
  unless (← get).blankAt 0 do Reader.fail .missingBlankOrBreak .tagDirective start
  pure (.handle name stem)

/-- What the directive at the cursor says. -/
def body (start : Mark) : Reader Token.Kind := do
  Reader.advance 1
  let name ← Reader.span isWordChar
  if name.isEmpty then Reader.fail .missingDirectiveName .directive start
  unless (← get).blankAt 0 do Reader.fail .badDirectiveName .directive start
  match String.ofList name with
  | "YAML" => version start
  | "TAG" => handle start
  | _ => Reader.fail .unknownDirective .directive start

/-- A directive; nothing but a comment may follow it on its line, which is passed over. -/
def read : Reader Token.Kind := do
  let start := (← get).mark
  let kind ← body start
  modify (·.skipComment)
  let c ← get
  unless c.here.isEmpty do Reader.fail .missingCommentOrBreak .directive start
  set (c.nextLine?.getD c)
  pure kind

end Directive
end Yaml
end FlowCheck
