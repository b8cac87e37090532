import FeedSieve.Text.Number

/-!
# Faults

Conditions that no step answers for. A fault passes every handler on its way out and ends the request it
happens in; `Fault.message` is what it says.
-/
namespace FeedSieve

/-- A condition that no step answers for. -/
inductive Fault where
  /-- A conversion left the years 1 to 9999. -/
  | dateOutOfRange
  /-- A value that should be converted is no date; `kind` names what it is. -/
  | notADate (kind : String)
  /-- The date of a property was asked for, and its text could not be read. -/
  | brokenProperty (name cause : String)
  /-- A pattern repeats something too often. -/
  | repetitionTooLarge
  /-- A pattern asks for two alphabets at once. -/
  | clashingAlphabets
  /-- A pattern holds a count of too many digits. -/
  | countTooLong (digits : Nat)
  /-- Something the program relies on failed in a way it does not announce. -/
  | unannounced (kind message : String)
  deriving DecidableEq, Repr

/-- The transport failed in a way it does not announce. -/
@[match_pattern] abbrev Fault.transport (kind message : String) : Fault := .unannounced kind message

/-- A value of a kind was asked for something that its kind does not have. -/
def Fault.noAttribute (kind name : String) : Fault :=
  .unannounced "AttributeError" ("'" ++ kind ++ "' object has no attribute '" ++ name ++ "'")

def Fault.message : Fault → String
  | .dateOutOfRange => "date value out of range"
  | .notADate kind => "expected date or datetime, got " ++ kind
  | .brokenProperty name cause =>
    "Cannot access 'dt' on broken property '" ++ name ++ "' (expected 'vDDDTypes'): " ++ cause
  | .repetitionTooLarge => "the repetition number is too large"
  | .clashingAlphabets => "ASCII and UNICODE flags are incompatible"
  | .countTooLong digits => Text.Number.limitMessage digits
  | .unannounced _ message => message

end FeedSieve
