/-
Module: JobShell.Machine.Utility.RichFault
Purpose: What can be wrong with a rich pattern.
Main exports: RichFault, RichFault.message
-/
namespace JobShell.Machine.Utility

/-- What is wrong with a rich pattern. -/
inductive RichFault where
  | lastBackslash
  | lastControl
  | unknownEscape
  | countOrder
  | countSize
  | openSet
  | escapeInSet
  | rangeOrder
  | nothingToRepeat
  | unknownGroup
  | classOutside
  | collating
  | openGroup
  | missingGroup
  | openRemark
  | closedGroup
  | wideBehind
  | tooFarBehind
  | manyBranches
  | conditionWanted
  | relativeDigit
  | unknownClass
  | caseEscape
  | unknownNamed
  | nameSyntax
  | nameTwice
  | nameDigit
  | propertySyntax
  | unknownProperty
  | setRange
  | octalSize
  | nameMissing
  | octalDigits
  | hexDigits
  | codeSize
  | controlSign
  | lineEndInSet
  | groupSyntax
  | backSyntax
  | unknownVerb
  | restartInLook
  | tooLong
deriving Repr, DecidableEq

/-- The words for what is wrong. -/
def RichFault.message : RichFault → String
  | lastBackslash => "\\ at end of pattern"
  | lastControl => "\\c at end of pattern"
  | unknownEscape => "unrecognized character follows \\"
  | countOrder => "numbers out of order in \x7b\x7d quantifier"
  | countSize => "number too big in \x7b\x7d quantifier"
  | openSet => "missing terminating ] for character class"
  | escapeInSet => "escape sequence is invalid in character class"
  | rangeOrder => "range out of order in character class"
  | nothingToRepeat => "quantifier does not follow a repeatable item"
  | unknownGroup => "unrecognized character after (? or (?-"
  | classOutside => "POSIX named classes are supported only within a class"
  | collating => "POSIX collating elements are not supported"
  | openGroup => "missing closing parenthesis"
  | missingGroup => "reference to non-existent subpattern"
  | openRemark => "missing ) after (?# comment"
  | closedGroup => "unmatched closing parenthesis"
  | wideBehind => "lookbehind assertion is not fixed length"
  | tooFarBehind => "lookbehind assertion is too long"
  | manyBranches => "conditional subpattern contains more than two branches"
  | conditionWanted => "assertion expected after (?( or (?(?C)"
  | relativeDigit => "digit expected after (?+ or (?-"
  | unknownClass => "unknown POSIX class name"
  | caseEscape => "PCRE2 does not support \\F, \\L, \\l, \\N\x7bname\x7d, \\U, or \\u"
  | unknownNamed => "unrecognized character after (?P"
  | nameSyntax => "syntax error in subpattern name (missing terminator?)"
  | nameTwice => "two named subpatterns have the same name (PCRE2_DUPNAMES not set)"
  | nameDigit => "subpattern name must start with a non-digit"
  | propertySyntax => "malformed \\P or \\p sequence"
  | unknownProperty => "unknown property after \\P or \\p"
  | setRange => "invalid range in character class"
  | octalSize => "octal value is greater than \\377 in 8-bit non-UTF-8 mode"
  | nameMissing => "subpattern name expected"
  | octalDigits => "non-octal character in \\o\x7b\x7d (closing brace missing?)"
  | hexDigits => "non-hex character in \\x\x7b\x7d (closing brace missing?)"
  | codeSize => "character code point value in \\x\x7b\x7d or \\o\x7b\x7d is too large"
  | controlSign => "\\c must be followed by a printable ASCII character"
  | lineEndInSet => "\\N is not supported in a class"
  | groupSyntax =>
      "\\g is not followed by a braced, angle-bracketed, or quoted name/number or by a plain number"
  | backSyntax => "\\k is not followed by a braced, angle-bracketed, or quoted name"
  | unknownVerb => "(*VERB) not recognized or malformed"
  | restartInLook =>
      "\\K is not allowed in lookarounds (but see PCRE2_EXTRA_ALLOW_LOOKAROUND_BSK)"
  | tooLong => "regular expression is too large"

end JobShell.Machine.Utility
