import OpenstackAdmission.Yaml.Source

/-!
# Why a text is not YAML

A fault tells what was wrong and where, and often what was being read and where that began. A place is
left out of a message if it is the first place of the text or has just been told.
-/

namespace OpenstackAdmission.Yaml

/-- What was being read when a fault was found. -/
inductive Activity where
  | nextToken
  | simpleKey
  | directive
  | versionDirective
  | tagDirective
  | tagDirectivePart
  | tagDirectiveHandle
  | tagHandleOfDirective
  | anchor
  | alias
  | tag
  | tagPart
  | blockScalar
  | quotedScalar
  | quotedScalarPart
  | plainScalar
  | node
  | blockNode
  | flowNode
  | blockSequence
  | blockMapping
  | flowSequence
  | flowMapping
  deriving DecidableEq, Repr

namespace Activity

def text : Activity → String
  | .nextToken => "while scanning for the next token"
  | .simpleKey => "while scanning a simple key"
  | .directive => "while scanning a directive"
  | .versionDirective => "while scanning a %YAML directive"
  | .tagDirective => "while scanning a %TAG directive"
  | .tagDirectivePart => "while parsing a %TAG directive"
  | .tagDirectiveHandle => "while scanning a tag directive"
  | .tagHandleOfDirective => "while parsing a tag directive"
  | .anchor => "while scanning an anchor"
  | .alias => "while scanning an alias"
  | .tag => "while scanning a tag"
  | .tagPart => "while parsing a tag"
  | .blockScalar => "while scanning a block scalar"
  | .quotedScalar => "while scanning a quoted scalar"
  | .quotedScalarPart => "while parsing a quoted scalar"
  | .plainScalar => "while scanning a plain scalar"
  | .node => "while parsing a node"
  | .blockNode => "while parsing a block node"
  | .flowNode => "while parsing a flow node"
  | .blockSequence => "while parsing a block collection"
  | .blockMapping => "while parsing a block mapping"
  | .flowSequence => "while parsing a flow sequence"
  | .flowMapping => "while parsing a flow mapping"

end Activity

/-- What is wrong. -/
inductive Problem where
  | noToken
  | keyWithoutColon
  | entryNotAllowed
  | keyNotAllowed
  | valueNotAllowed
  | unknownDirective
  | directiveWithoutName
  | badDirectiveName
  | noCommentOrBreak
  | noVersionPoint
  | noVersionNumber
  | longVersionNumber
  | noBlank
  | noBlankOrBreak
  | noExclamationMark
  | noTagText
  | noClosingAngle
  | badEscape
  | badLeadingOctet
  | badTrailingOctet
  | badName
  | zeroIndentation
  | tabInIndentation
  | tabBelowIndentation
  | documentMarkerInside
  | endOfText
  | unknownEscape
  | badHexDigit
  | badCodePoint
  | colonInFlow
  | noDocumentStart
  | repeatedVersion
  | unknownVersion
  | repeatedTagHandle
  | unknownTagHandle
  | noContent
  | noHyphen
  | noKey
  | noCommaOrBracket
  | noCommaOrBrace
  deriving DecidableEq, Repr

namespace Problem

def text : Problem → String
  | .noToken => "found character that cannot start any token"
  | .keyWithoutColon => "could not find expected ':'"
  | .entryNotAllowed => "block sequence entries are not allowed in this context"
  | .keyNotAllowed => "mapping keys are not allowed in this context"
  | .valueNotAllowed => "mapping values are not allowed in this context"
  | .unknownDirective => "found unknown directive name"
  | .directiveWithoutName => "could not find expected directive name"
  | .badDirectiveName => "found unexpected non-alphabetical character"
  | .noCommentOrBreak => "did not find expected comment or line break"
  | .noVersionPoint => "did not find expected digit or '.' character"
  | .noVersionNumber => "did not find expected version number"
  | .longVersionNumber => "found extremely long version number"
  | .noBlank => "did not find expected whitespace"
  | .noBlankOrBreak => "did not find expected whitespace or line break"
  | .noExclamationMark => "did not find expected '!'"
  | .noTagText => "did not find expected tag URI"
  | .noClosingAngle => "did not find the expected '>'"
  | .badEscape => "did not find URI escaped octet"
  | .badLeadingOctet => "found an incorrect leading UTF-8 octet"
  | .badTrailingOctet => "found an incorrect trailing UTF-8 octet"
  | .badName => "did not find expected alphabetic or numeric character"
  | .zeroIndentation => "found an indentation indicator equal to 0"
  | .tabInIndentation => "found a tab character where an indentation space is expected"
  | .tabBelowIndentation => "found a tab character that violates indentation"
  | .documentMarkerInside => "found unexpected document indicator"
  | .endOfText => "found unexpected end of stream"
  | .unknownEscape => "found unknown escape character"
  | .badHexDigit => "did not find expected hexadecimal number"
  | .badCodePoint => "found invalid Unicode character escape code"
  | .colonInFlow => "found unexpected ':'"
  | .noDocumentStart => "did not find expected <document start>"
  | .repeatedVersion => "found duplicate %YAML directive"
  | .unknownVersion => "found incompatible YAML document"
  | .repeatedTagHandle => "found duplicate %TAG directive"
  | .unknownTagHandle => "found undefined tag handle"
  | .noContent => "did not find expected node content"
  | .noHyphen => "did not find expected '-' indicator"
  | .noKey => "did not find expected key"
  | .noCommaOrBracket => "did not find expected ',' or ']'"
  | .noCommaOrBrace => "did not find expected ',' or '\x7d'"

end Problem

inductive SyntaxError where
  /-- A character that no text may hold, after some bytes of the text. -/
  | controlCharacter (offset : Nat)
  /-- A problem at a place, and what was being read since another. -/
  | problem (what : Problem) (mark : Mark) (during : Option (Activity × Mark))
  deriving DecidableEq, Repr

namespace SyntaxError

/-- What was being read, and since where if that is another place than that of the problem. -/
def duringText (mark : Mark) : Option (Activity × Mark) → String
  | none => ""
  | some (activity, start) =>
    ", " ++ activity.text ++
      if start.line = mark.line && start.column = mark.column then "" else start.suffix

def message : SyntaxError → String
  | .controlCharacter offset =>
    "control characters are not allowed" ++
      if offset = 0 then "" else s!" at position {offset}"
  | .problem what mark during => what.text ++ mark.suffix ++ duringText mark during

end SyntaxError

end OpenstackAdmission.Yaml
