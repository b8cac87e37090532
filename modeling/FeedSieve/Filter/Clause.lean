import FeedSieve.Pattern.Match
import FeedSieve.Pattern.Parse

/-!
# Filter clauses

A clause tests the title of an event: `[!]condition:pattern`. The mark in front turns the test around, the
condition says how the pattern is used. The pattern of `true` is dropped, that of `regex` must be
readable.
-/
namespace FeedSieve.Filter

/-- Whether a text is found in another, at its start or later. -/
def isPart (part : List Char) : List Char → Bool
  | [] => part.isEmpty
  | c :: rest => part.isPrefixOf (c :: rest) || isPart part rest

inductive Condition where
  | equals (text : String)
  | startsWith (text : String)
  | endsWith (text : String)
  | contains (text : String)
  | always
  | regex (text : String) (node : Pattern.Node)
  deriving Repr

namespace Condition

def name : Condition → String
  | .equals _ => "equals"
  | .startsWith _ => "startsWith"
  | .endsWith _ => "endsWith"
  | .contains _ => "contains"
  | .always => "true"
  | .regex .. => "regex"

def text : Condition → String
  | .equals text => text
  | .startsWith text => text
  | .endsWith text => text
  | .contains text => text
  | .always => ""
  | .regex text _ => text

def holds (c : Condition) (title : String) : Bool :=
  match c with
  | .equals text => title == text
  | .startsWith text => text.toList.isPrefixOf title.toList
  | .endsWith text => text.toList.isSuffixOf title.toList
  | .contains text => isPart text.toList title.toList
  | .always => true
  | .regex _ node => node.occursIn title

end Condition

def conditionNames : List String :=
  ["equals", "startsWith", "endsWith", "contains", "true", "regex"]

/-- One test of a title, perhaps turned around. -/
structure Clause where
  condition : Condition
  negated : Bool
  deriving Repr

inductive ClauseError where
  | doubleNegation
  | noColon
  | unknownCondition
  | badPattern (pattern : String) (cause : Pattern.PatternError)
  | fault (cause : Fault)
  deriving DecidableEq, Repr

def ClauseError.message (segment : String) : ClauseError → String
  | .doubleNegation => "only a single leading '!' is allowed: " ++ Text.Quoted.quote segment
  | .noColon => "expected [!]condition:pattern: " ++ Text.Quoted.quote segment
  | .unknownCondition =>
    "unknown filter condition; options are " ++ ", ".intercalate conditionNames ++ ": "
      ++ Text.Quoted.quote segment
  | .badPattern pattern cause =>
    "invalid regular expression (" ++ cause.message pattern ++ "): " ++ Text.Quoted.quote segment
  | .fault cause => cause.message

def Condition.ofName (name text : String) : Except ClauseError Condition :=
  match name with
  | "equals" => .ok (.equals text)
  | "startsWith" => .ok (.startsWith text)
  | "endsWith" => .ok (.endsWith text)
  | "contains" => .ok (.contains text)
  | "true" => .ok .always
  | "regex" =>
    match Pattern.parse text with
    | .ok node => .ok (.regex text node)
    | .error (.error e) => .error (.badPattern text e)
    | .error (.fault f) => .error (.fault f)
  | _ => .error .unknownCondition

namespace Clause

def parse (segment : String) : Except ClauseError Clause :=
  let s := segment.toList
  let negated : Bool := s.head? = some '!'
  let body := if negated then s.tail else s
  if body.head? = some '!' then .error .doubleNegation
  else
    let name := body.takeWhile (· ≠ ':')
    match body.dropWhile (· ≠ ':') with
    | [] => .error .noColon
    | _ :: pattern =>
      (Condition.ofName (String.ofList name) (String.ofList pattern)).map (⟨·, negated⟩)

def accepts (c : Clause) (title : String) : Bool := c.condition.holds title != c.negated

def render (c : Clause) : String :=
  (if c.negated then "!" else "") ++ c.condition.name ++ ":" ++ c.condition.text

end Clause

end FeedSieve.Filter
