/-!
# Tokens of YAML

The tokens a YAML text is cut into, and the causes for which a text is not YAML at all or does not
hold what was asked of it.
-/

namespace WorkItems.Yaml

/-- How a scalar is written. -/
inductive Style where
  | plain
  | singleQuoted
  | doubleQuoted
  | literal
  | folded
deriving DecidableEq, Repr, Inhabited

inductive Token where
  | streamEnd
  | documentStart
  | documentEnd
  | version (major minor : Nat)
  | tagHandle (handle expansion : String)
  | blockSequenceStart
  | blockMappingStart
  | blockEnd
  | flowSequenceStart
  | flowSequenceEnd
  | flowMappingStart
  | flowMappingEnd
  | blockEntry
  | flowEntry
  | key
  | value
  | aliasOf (name : String)
  | anchor (name : String)
  | tag (handle suffix : String)
  | scalar (text : String) (style : Style)
deriving DecidableEq, Repr, Inhabited

/-- Why a text cannot be read. -/
inductive Error where
  /-- A character that no YAML text may hold. -/
  | forbiddenCharacter
  /-- A character with which no token starts. -/
  | noToken
  /-- A key that has to be followed by a colon is not. -/
  | missingColon
  /-- A block indicator in a place where no block collection may start. -/
  | misplacedIndicator
  | badDirective
  | badAnchor
  | badTag
  | unknownTagHandle
  /-- A quoted scalar without its end, or with a document marker inside. -/
  | unterminatedScalar
  | badEscape
  /-- A colon inside of a flow collection that separates nothing. -/
  | unexpectedColon
  | badIndentation
  | badBlockHeader
  /-- A token that the grammar does not allow in its place. -/
  | unexpectedToken
  | unknownAlias
  | moreThanOneDocument
  /-- Collections nested too deeply. -/
  | nestingLimit
  /-- Aliases followed too often. -/
  | aliasLimit
  | duplicateKey
  /-- A value of another type than the one asked for. -/
  | wrongType
  | missingField (name : String)
deriving DecidableEq, Repr

def Error.message : Error → String
  | forbiddenCharacter => "control characters are not allowed"
  | noToken => "found a character that cannot start any token"
  | missingColon => "could not find expected ':'"
  | misplacedIndicator => "block collections are not allowed in this context"
  | badDirective => "invalid directive"
  | badAnchor => "invalid anchor or alias"
  | badTag => "invalid tag"
  | unknownTagHandle => "found undefined tag handle"
  | unterminatedScalar => "unterminated quoted scalar"
  | badEscape => "invalid escape sequence"
  | unexpectedColon => "found unexpected ':'"
  | badIndentation => "found a tab character where an indentation space is expected"
  | badBlockHeader => "invalid block scalar header"
  | unexpectedToken => "did not find expected node content"
  | unknownAlias => "unknown anchor"
  | moreThanOneDocument => "more than one document"
  | nestingLimit => "recursion limit exceeded"
  | aliasLimit => "repetition limit exceeded"
  | duplicateKey => "duplicate entry"
  | wrongType => "invalid type"
  | missingField name => "missing field '" ++ name ++ "'"

end WorkItems.Yaml
