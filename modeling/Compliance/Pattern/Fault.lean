/-!
What can be wrong with a pattern.
-/

namespace Compliance.Pattern

inductive Fault
  | groupUnclosed | groupUnopened | lookAround
  | nameOpen | nameEmpty | nameInvalid | nameRepeated
  | flagsOpen | flagUnknown | flagRepeated | negationDangling | negationRepeated
  | nothingToRepeat | countUnclosed | countEmpty | countInvalid | countReversed
  | escapeOpen | escapeUnknown | backreference
  | hexEmpty | hexDigit | hexInvalid
  | boundaryUnclosed | boundaryUnknown
  | classUnclosed | classEscape | rangeEnd | rangeReversed
  | propertyUnknown | propertyValueUnknown
  | bytesOnly | unicodeOnly
  | tooDeep | tooLarge
  deriving DecidableEq, Repr, Inhabited

def Fault.message : Fault → String
  | .groupUnclosed => "unclosed group"
  | .groupUnopened => "unopened group"
  | .lookAround => "look-around, including look-ahead and look-behind, is not supported"
  | .nameOpen => "unclosed capture group name"
  | .nameEmpty => "empty capture group name"
  | .nameInvalid => "invalid capture group character"
  | .nameRepeated => "duplicate capture group name"
  | .flagsOpen => "expected flag but got end of regex"
  | .flagUnknown => "unrecognized flag"
  | .flagRepeated => "duplicate flag"
  | .negationDangling => "dangling flag negation operator"
  | .negationRepeated => "flag negation operator repeated"
  | .nothingToRepeat => "repetition operator missing expression"
  | .countUnclosed => "unclosed counted repetition"
  | .countEmpty => "repetition quantifier expects a valid decimal"
  | .countInvalid => "decimal literal invalid"
  | .countReversed => "invalid repetition count range, the start must be <= the end"
  | .escapeOpen => "incomplete escape sequence, reached end of pattern prematurely"
  | .escapeUnknown => "unrecognized escape sequence"
  | .backreference => "backreferences are not supported"
  | .hexEmpty => "hexadecimal literal empty"
  | .hexDigit => "invalid hexadecimal digit"
  | .hexInvalid => "hexadecimal literal is not a Unicode scalar value"
  | .boundaryUnclosed =>
    "special word boundary assertion is either unclosed or contains an invalid character"
  | .boundaryUnknown => "unrecognized special word boundary assertion"
  | .classUnclosed => "unclosed character class"
  | .classEscape => "invalid escape sequence found in character class"
  | .rangeEnd => "invalid range boundary, must be a literal"
  | .rangeReversed => "invalid character class range, the start must be <= the end"
  | .propertyUnknown => "Unicode property not found"
  | .propertyValueUnknown => "Unicode property value not found"
  | .bytesOnly => "pattern can match invalid UTF-8"
  | .unicodeOnly => "Unicode not allowed here"
  | .tooDeep => "exceeded the maximum number of nested parentheses/brackets (250)"
  | .tooLarge => "Compiled regex exceeds size limit of 10485760 bytes."

end Compliance.Pattern
