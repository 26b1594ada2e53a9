/-!
# Why a text is no pattern
-/

namespace WorkItems.Pattern

inductive Error where
  | unclosedGroup
  | unopenedGroup
  | lookAround
  | badGroupName
  | repeatedGroupName (name : String)
  | unknownFlag (flag : Char)
  | repeatedFlag (flag : Char)
  | danglingNegation
  | unclosedFlags
  | nothingToRepeat
  | unclosedCount
  | badCount
  | emptyCount
  | unclosedClass
  | backwardRange
  | noCharacterInRange
  | noCharacterClass
  | unfinishedEscape
  | unknownEscape (letter : Char)
  | backreference
  | badCodePoint
  | unknownClass (name : String)
  | unknownEdge (name : String)
  /-- Something that cannot be said about single bytes. -/
  | needsUnicode
  /-- Parts of characters would fit. -/
  | splitsCharacters
  | tooDeep
  | tooLarge
deriving DecidableEq, Repr

namespace Error

/-- The cause in words. They do not quote the pattern, so they stay on one line. -/
def reason : Error → String
  | unclosedGroup => "unclosed group"
  | unopenedGroup => "unopened group"
  | lookAround => "look-around is not supported"
  | badGroupName => "invalid group name"
  | repeatedGroupName _ => "duplicate group name"
  | unknownFlag _ => "unrecognized flag"
  | repeatedFlag _ => "duplicate flag"
  | danglingNegation => "dangling flag negation"
  | unclosedFlags => "unclosed flags"
  | nothingToRepeat => "repetition operator missing expression"
  | unclosedCount => "unclosed counted repetition"
  | badCount => "invalid repetition count"
  | emptyCount => "repetition count range without members"
  | unclosedClass => "unclosed character class"
  | backwardRange => "the start of a range must not lie behind its end"
  | noCharacterInRange => "a range must go from one character to another"
  | noCharacterClass => "this escape does not stand for characters"
  | unfinishedEscape => "incomplete escape sequence"
  | unknownEscape _ => "unrecognized escape sequence"
  | backreference => "backreferences are not supported"
  | badCodePoint => "invalid code point"
  | unknownClass _ => "unknown character class"
  | unknownEdge _ => "unknown word boundary"
  | needsUnicode => "Unicode is not allowed here"
  | splitsCharacters => "pattern can match parts of characters"
  | tooDeep => "too much nesting"
  | tooLarge => "too large"

def message : Error → String
  | tooLarge => "Compiled regex exceeds size limit of 10485760 bytes."
  | e => "regex parse error: " ++ e.reason

end Error
end WorkItems.Pattern
