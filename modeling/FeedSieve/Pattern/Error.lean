import FeedSieve.Fault
import FeedSieve.Text.Quoted

/-!
# Errors in patterns

What can be wrong with the text of a pattern, and what is said about it. Most errors are at a position in
the pattern; when the pattern has several lines, the line and the column are told as well.
-/
namespace FeedSieve.Pattern

inductive Cause where
  | escapeAtEnd
  | incompleteEscape (text : String)
  | badEscape (text : String)
  | characterName (name : String)
  | missing (what : String)
  | unterminatedName (mark : String)
  | octalRange (text : String)
  | openGroup
  | sameLookbehind
  | groupReference (number : Nat)
  | unterminatedSet
  | characterRange (first last : String)
  | repeatOrder
  | nothingToRepeat
  | multipleRepeat
  | endOfPattern
  | extension (text : String)
  | groupName (name : String)
  | unknownGroup (name : String)
  | groupNumber
  | redefinition (name : String) (number earlier : Nat)
  | unterminatedComment
  | unterminatedGroup
  | lateFlags
  | branches
  | localeFlag
  | alphabets
  | globalFlagOn
  | globalFlagOff
  | alphabetOff
  | flagOnAndOff
  | unknownFlag
  | parenthesis
  | lookbehindWidth
  | lookbehindLimit
  | template (repetition : String)
  deriving DecidableEq, Repr

def Cause.text : Cause → String
  | .escapeAtEnd => "bad escape (end of pattern)"
  | .incompleteEscape text => "incomplete escape " ++ text
  | .badEscape text => "bad escape " ++ text
  | .characterName name => "undefined character name " ++ Text.Quoted.quote name
  | .missing what => "missing " ++ what
  | .unterminatedName mark => "missing " ++ mark ++ ", unterminated name"
  | .octalRange text => "octal escape value " ++ text ++ " outside of range 0-0o377"
  | .openGroup => "cannot refer to an open group"
  | .sameLookbehind => "cannot refer to group defined in the same lookbehind subpattern"
  | .groupReference number => "invalid group reference " ++ toString number
  | .unterminatedSet => "unterminated character set"
  | .characterRange first last => "bad character range " ++ first ++ "-" ++ last
  | .repeatOrder => "min repeat greater than max repeat"
  | .nothingToRepeat => "nothing to repeat"
  | .multipleRepeat => "multiple repeat"
  | .endOfPattern => "unexpected end of pattern"
  | .extension text => "unknown extension " ++ text
  | .groupName name => "bad character in group name " ++ Text.Quoted.quote name
  | .unknownGroup name => "unknown group name " ++ Text.Quoted.quote name
  | .groupNumber => "bad group number"
  | .redefinition name number earlier =>
    "redefinition of group name " ++ Text.Quoted.quote name ++ " as group " ++ toString number
      ++ "; was group " ++ toString earlier
  | .unterminatedComment => "missing ), unterminated comment"
  | .unterminatedGroup => "missing ), unterminated subpattern"
  | .lateFlags => "global flags not at the start of the expression"
  | .branches => "conditional backref with more than two branches"
  | .localeFlag => "bad inline flags: cannot use 'L' flag with a str pattern"
  | .alphabets => "bad inline flags: flags 'a', 'u' and 'L' are incompatible"
  | .globalFlagOn => "bad inline flags: cannot turn on global flag"
  | .globalFlagOff => "bad inline flags: cannot turn off global flag"
  | .alphabetOff => "bad inline flags: cannot turn off flags 'a', 'u' and 'L'"
  | .flagOnAndOff => "bad inline flags: flag turned on and off"
  | .unknownFlag => "unknown flag"
  | .parenthesis => "unbalanced parenthesis"
  | .lookbehindWidth => "look-behind requires fixed-width pattern"
  | .lookbehindLimit => "looks too much behind"
  | .template repetition => "internal: unsupported template operator " ++ repetition

/-- An error in a pattern, and where it is, if it is in one place. -/
structure PatternError where
  cause : Cause
  position : Option Nat
  deriving DecidableEq, Repr

def PatternError.message (pattern : String) (e : PatternError) : String :=
  match e.position with
  | none => e.cause.text
  | some n =>
    let before := pattern.toList.take n
    let line := before.count '\n' + 1
    let column := n - (before.reverse.dropWhile (· ≠ '\n')).length + 1
    e.cause.text ++ " at position " ++ toString n
      ++ (if '\n' ∈ pattern.toList then
            " (line " ++ toString line ++ ", column " ++ toString column ++ ")"
          else "")

/-- Why a pattern is not accepted: an error in it, or a fault. -/
inductive Refusal where
  | error (e : PatternError)
  | fault (f : Fault)
  deriving DecidableEq, Repr

end FeedSieve.Pattern
