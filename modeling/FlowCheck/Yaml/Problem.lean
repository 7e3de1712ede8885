import FlowCheck.Text.Quoted
import FlowCheck.Yaml.Mark

/-!
# Why a text is no YAML document

The problems that reading a YAML text can meet, and their wording: a text that breaks the grammar,
an alias that goes nowhere or too far, and a node that stands for no JSON value.

A problem with the grammar has a cause and, mostly, a context: the larger piece of text that was
being read, with the place where that piece begins.  A place at the very beginning of the text is
left out, and so is the place of a context that is the place of the cause.
-/

namespace FlowCheck
namespace Yaml

/-! ## Breaches of the grammar -/

/-- What is wrong at a place. -/
inductive Cause where
  | noToken
  | entryNotAllowed
  | keyNotAllowed
  | valueNotAllowed
  | missingColon
  | unexpectedColon
  | unknownDirective
  | missingDirectiveName
  | badDirectiveName
  | missingPoint
  | missingVersion
  | longVersion
  | missingBlank
  | missingBlankOrBreak
  | missingCommentOrBreak
  | missingName
  | missingMark
  | missingUri
  | missingClose
  | badOctet
  | badLeadingOctet
  | badTrailingOctet
  | zeroIndent
  | tabForSpace
  | tabInIndent
  | documentMarker
  | endOfText
  | unknownEscape
  | missingHex
  | badCodePoint
  | missingDocumentStart
  | repeatedVersion
  | foreignVersion
  | repeatedHandle
  | unknownHandle
  | missingContent
  | missingDash
  | missingKey
  | missingCommaOrBracket
  | missingCommaOrBrace
deriving DecidableEq

def Cause.text : Cause → String
  | noToken => "found character that cannot start any token"
  | entryNotAllowed => "block sequence entries are not allowed in this context"
  | keyNotAllowed => "mapping keys are not allowed in this context"
  | valueNotAllowed => "mapping values are not allowed in this context"
  | missingColon => "could not find expected ':'"
  | unexpectedColon => "found unexpected ':'"
  | unknownDirective => "found unknown directive name"
  | missingDirectiveName => "could not find expected directive name"
  | badDirectiveName => "found unexpected non-alphabetical character"
  | missingPoint => "did not find expected digit or '.' character"
  | missingVersion => "did not find expected version number"
  | longVersion => "found extremely long version number"
  | missingBlank => "did not find expected whitespace"
  | missingBlankOrBreak => "did not find expected whitespace or line break"
  | missingCommentOrBreak => "did not find expected comment or line break"
  | missingName => "did not find expected alphabetic or numeric character"
  | missingMark => "did not find expected '!'"
  | missingUri => "did not find expected tag URI"
  | missingClose => "did not find the expected '>'"
  | badOctet => "did not find URI escaped octet"
  | badLeadingOctet => "found an incorrect leading UTF-8 octet"
  | badTrailingOctet => "found an incorrect trailing UTF-8 octet"
  | zeroIndent => "found an indentation indicator equal to 0"
  | tabForSpace => "found a tab character where an indentation space is expected"
  | tabInIndent => "found a tab character that violates indentation"
  | documentMarker => "found unexpected document indicator"
  | endOfText => "found unexpected end of stream"
  | unknownEscape => "found unknown escape character"
  | missingHex => "did not find expected hexdecimal number"
  | badCodePoint => "found invalid Unicode character escape code"
  | missingDocumentStart => "did not find expected <document start>"
  | repeatedVersion => "found duplicate %YAML directive"
  | foreignVersion => "found incompatible YAML document"
  | repeatedHandle => "found duplicate %TAG directive"
  | unknownHandle => "found undefined tag handle"
  | missingContent => "did not find expected node content"
  | missingDash => "did not find expected '-' indicator"
  | missingKey => "did not find expected key"
  | missingCommaOrBracket => "did not find expected ',' or ']'"
  | missingCommaOrBrace => "did not find expected ',' or '\x7d'"

/-- The larger piece of text that was being read. -/
inductive Context where
  | nextToken
  | simpleKey
  | directive
  | versionDirective
  | tagDirective
  | tagDirectiveHandle
  | tagDirectiveHandleEnd
  | tagDirectiveUri
  | tag
  | tagUri
  | anchor
  | reference
  | blockScalar
  | plainScalar
  | quotedScalar
  | escape
  | node
  | blockNode
  | flowNode
  | blockSequence
  | blockMapping
  | flowSequence
  | flowMapping
deriving DecidableEq

def Context.text : Context → String
  | nextToken => "while scanning for the next token"
  | simpleKey => "while scanning a simple key"
  | directive => "while scanning a directive"
  | versionDirective => "while scanning a %YAML directive"
  | tagDirective => "while scanning a %TAG directive"
  | tagDirectiveHandle => "while scanning a tag directive"
  | tagDirectiveHandleEnd => "while parsing a tag directive"
  | tagDirectiveUri => "while parsing a %TAG directive"
  | tag => "while scanning a tag"
  | tagUri => "while parsing a tag"
  | anchor => "while scanning an anchor"
  | reference => "while scanning an alias"
  | blockScalar => "while scanning a block scalar"
  | plainScalar => "while scanning a plain scalar"
  | quotedScalar => "while scanning a quoted scalar"
  | escape => "while parsing a quoted scalar"
  | node => "while parsing a node"
  | blockNode => "while parsing a block node"
  | flowNode => "while parsing a flow node"
  | blockSequence => "while parsing a block collection"
  | blockMapping => "while parsing a block mapping"
  | flowSequence => "while parsing a flow sequence"
  | flowMapping => "while parsing a flow mapping"

/-! ## Nodes without a value -/

/-- Why a node stands for no JSON value. -/
inductive Misfit where
  /-- A node with a tag of its own. -/
  | customTag
  /-- A scalar whose text is not of the type that its tag names. -/
  | wrongText (text : String) (expected : String)
  /-- A sequence or a mapping as the key of a mapping's first or later entry. -/
  | keyNotText (isMapping : Bool) (isFirst : Bool)
  | numberOutOfRange
deriving DecidableEq

def Misfit.text : Misfit → String
  | customTag => "invalid type: enum, expected any valid JSON value"
  | wrongText text expected =>
    "invalid value: string " ++ Text.quoted text ++ ", expected " ++ expected
  | keyNotText isMapping isFirst =>
    "invalid type: " ++ (if isMapping then "map" else "sequence") ++ ", expected " ++
      (if isFirst then "a string key" else "a string")
  | numberOutOfRange => "JSON number out of range"

/-! ## Problems -/

inductive Problem where
  /-- A character that no YAML text may have, so many bytes into the text. -/
  | forbiddenCharacter (offset : Nat)
  | malformed (cause : Cause) (mark : Mark) (context : Option (Context × Mark))
  | unknownAnchor (mark : Mark)
  | tooDeep (mark : Mark)
  | tooManyRepetitions
  | severalDocuments
  /-- A node without a value, with the dotted path to it and its place once they are known. -/
  | unfit (why : Misfit) (place : Option (String × Mark))
deriving DecidableEq

namespace Problem

/-- A text, and the place where it applies. -/
def located (s : String) (m : Mark) : String := if m.isStart then s else s ++ " at " ++ m.text

/-- The context of a cause at `mark`, with its own place if it is another one. -/
def contextText (mark : Mark) : Context × Mark → String
  | (context, start) => if start = mark then context.text else located context.text start

def message : Problem → String
  | forbiddenCharacter offset =>
    "control characters are not allowed" ++
      (if offset = 0 then "" else " at position " ++ toString offset)
  | malformed cause mark none => located cause.text mark
  | malformed cause mark (some context) =>
    located cause.text mark ++ ", " ++ contextText mark context
  | unknownAnchor mark => located "unknown anchor" mark
  | tooDeep mark => located "recursion limit exceeded" mark
  | tooManyRepetitions => "repetition limit exceeded"
  | severalDocuments =>
    "deserializing from YAML containing more than one document is not supported"
  | unfit why none => why.text
  | unfit why (some (path, mark)) =>
    located (if path = "." then why.text else path ++ ": " ++ why.text) mark

/-- Gives the place of a node without a value, unless a place nearer to it is known. -/
def placedAt (path : String) (mark : Mark) : Problem → Problem
  | unfit why none => unfit why (some (path, mark))
  | p => p

end Problem

end Yaml
end FlowCheck
