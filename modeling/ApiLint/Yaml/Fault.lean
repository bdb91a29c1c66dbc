import ApiLint.Position

/-!
# Why a text is no YAML

A fault is a problem noticed at one place while something that began at another
place was being read. Its wording names the problem first; a place at the very start
of the text is not worth mentioning, and neither is the beginning when it is where
the problem is.
-/

namespace ApiLint.Yaml

/-- What is wrong. -/
inductive Problem where
  | controlCharacter (offset : Nat)
  | noTokenStartsHere
  | colonExpected
  | sequenceEntryNotAllowed
  | mappingKeyNotAllowed
  | mappingValueNotAllowed
  | directiveNameExpected
  | nonAlphabeticCharacter
  | unknownDirective
  | commentOrBreakExpected
  | digitOrPointExpected
  | longVersionNumber
  | versionNumberExpected
  | whitespaceExpected
  | whitespaceOrBreakExpected
  | alphanumericExpected
  | closingAngleExpected
  | exclamationExpected
  | tagUriExpected
  | escapedOctetExpected
  | leadingOctet
  | trailingOctet
  | zeroIndentation
  | tabInIndentation
  | documentIndicator
  | endOfStream
  | unknownEscape
  | hexadecimalExpected
  | escapeCode
  | colonInPlainScalar
  | tabInPlainScalar
  | documentStartExpected
  | duplicateYamlDirective
  | incompatibleVersion
  | duplicateTagDirective
  | undefinedTagHandle
  | nodeContentExpected
  | dashExpected
  | keyExpected
  | sequenceCommaExpected
  | mappingCommaExpected
  deriving DecidableEq, Repr, Inhabited

def Problem.message : Problem → String
  | .controlCharacter _ => "control characters are not allowed"
  | .noTokenStartsHere => "found character that cannot start any token"
  | .colonExpected => "could not find expected ':'"
  | .sequenceEntryNotAllowed => "block sequence entries are not allowed in this context"
  | .mappingKeyNotAllowed => "mapping keys are not allowed in this context"
  | .mappingValueNotAllowed => "mapping values are not allowed in this context"
  | .directiveNameExpected => "could not find expected directive name"
  | .nonAlphabeticCharacter => "found unexpected non-alphabetical character"
  | .unknownDirective => "found unknown directive name"
  | .commentOrBreakExpected => "did not find expected comment or line break"
  | .digitOrPointExpected => "did not find expected digit or '.' character"
  | .longVersionNumber => "found extremely long version number"
  | .versionNumberExpected => "did not find expected version number"
  | .whitespaceExpected => "did not find expected whitespace"
  | .whitespaceOrBreakExpected => "did not find expected whitespace or line break"
  | .alphanumericExpected => "did not find expected alphabetic or numeric character"
  | .closingAngleExpected => "did not find the expected '>'"
  | .exclamationExpected => "did not find expected '!'"
  | .tagUriExpected => "did not find expected tag URI"
  | .escapedOctetExpected => "did not find URI escaped octet"
  | .leadingOctet => "found an incorrect leading UTF-8 octet"
  | .trailingOctet => "found an incorrect trailing UTF-8 octet"
  | .zeroIndentation => "found an indentation indicator equal to 0"
  | .tabInIndentation => "found a tab character where an indentation space is expected"
  | .documentIndicator => "found unexpected document indicator"
  | .endOfStream => "found unexpected end of stream"
  | .unknownEscape => "found unknown escape character"
  | .hexadecimalExpected => "did not find expected hexdecimal number"
  | .escapeCode => "found invalid Unicode character escape code"
  | .colonInPlainScalar => "found unexpected ':'"
  | .tabInPlainScalar => "found a tab character that violates indentation"
  | .documentStartExpected => "did not find expected <document start>"
  | .duplicateYamlDirective => "found duplicate %YAML directive"
  | .incompatibleVersion => "found incompatible YAML document"
  | .duplicateTagDirective => "found duplicate %TAG directive"
  | .undefinedTagHandle => "found undefined tag handle"
  | .nodeContentExpected => "did not find expected node content"
  | .dashExpected => "did not find expected '-' indicator"
  | .keyExpected => "did not find expected key"
  | .sequenceCommaExpected => "did not find expected ',' or ']'"
  | .mappingCommaExpected => "did not find expected ',' or '\x7d'"

/-- What was being read. -/
inductive Activity where
  | token
  | simpleKey
  | directive
  | yamlDirective
  | tagDirective
  | tagDirectiveHandle
  | tagDirectiveName
  | tagDirectiveUri
  | anchor
  | alias
  | tag
  | tagUri
  | blockScalar
  | quotedScalar
  | quotedEscape
  | plainScalar
  | node
  | blockNode
  | flowNode
  | blockSequence
  | blockMapping
  | flowSequence
  | flowMapping
  deriving DecidableEq, Repr, Inhabited

def Activity.message : Activity → String
  | .token => "while scanning for the next token"
  | .simpleKey => "while scanning a simple key"
  | .directive => "while scanning a directive"
  | .yamlDirective => "while scanning a %YAML directive"
  | .tagDirective => "while scanning a %TAG directive"
  | .tagDirectiveHandle => "while scanning a tag directive"
  | .tagDirectiveName => "while parsing a tag directive"
  | .tagDirectiveUri => "while parsing a %TAG directive"
  | .anchor => "while scanning an anchor"
  | .alias => "while scanning an alias"
  | .tag => "while scanning a tag"
  | .tagUri => "while parsing a tag"
  | .blockScalar => "while scanning a block scalar"
  | .quotedScalar => "while scanning a quoted scalar"
  | .quotedEscape => "while parsing a quoted scalar"
  | .plainScalar => "while scanning a plain scalar"
  | .node => "while parsing a node"
  | .blockNode => "while parsing a block node"
  | .flowNode => "while parsing a flow node"
  | .blockSequence => "while parsing a block collection"
  | .blockMapping => "while parsing a block mapping"
  | .flowSequence => "while parsing a flow sequence"
  | .flowMapping => "while parsing a flow mapping"

/-- What was being read, and where it began. -/
structure Context where
  activity : Activity
  start : Position
  deriving DecidableEq, Repr, Inhabited

/-- A problem, where it was noticed, and what was being read. -/
structure Fault where
  problem : Problem
  place : Position
  context? : Option Context
  deriving DecidableEq, Repr, Inhabited

/-- A place as it is mentioned, counted from 1; nothing at the start of the text. -/
def mention (place : Position) : String :=
  if place = .origin then "" else s!" at line {place.line + 1} column {place.column + 1}"

def Fault.message (fault : Fault) : String :=
  let place := match fault.problem with
    | .controlCharacter offset => if offset = 0 then "" else s!" at position {offset}"
    | _ => mention fault.place
  let context := match fault.context? with
    | none => ""
    | some context =>
      let start := if context.start = fault.place then "" else mention context.start
      s!", {context.activity.message}{start}"
  s!"{fault.problem.message}{place}{context}"

end ApiLint.Yaml
