import FeedSieve.Settings.SocketAddress
import FeedSieve.Text.Utf8
import FeedSieve.Time.Instant

/-!
# Why settings cannot be used

Settings are refused for a stated cause, or the file they were to come from is missing. A breakdown is a
condition that nothing answers for.
-/
namespace FeedSieve.Settings

inductive Misfit where
  /-- A text is no integer. -/
  | notInteger (text : String)
  /-- A text has too many digits for an integer. -/
  | tooManyDigits (digits : Nat)
  /-- A value is of a type that has no integer. -/
  | noInteger (kind : String)
  /-- A number is not a number. -/
  | nan
  /-- A text is no real number. -/
  | notReal (text : String)
  /-- A value is of a type that has no real number. -/
  | noReal (kind : String)
  /-- A value holds an integer that is too long to be written. -/
  | unprintable
  deriving DecidableEq, Repr

/-- What is wrong with an integer that is too long to be written. -/
def unprintableMessage : String :=
  "Exceeds the limit (" ++ toString Text.Number.digitLimit
    ++ " digits) for integer string conversion; use sys.set_int_max_str_digits() to increase the limit"

def Misfit.message : Misfit → String
  | .notInteger text => "invalid literal for int() with base 10: " ++ Text.Quoted.quote text
  | .tooManyDigits digits => Text.Number.limitMessage digits
  | .noInteger kind =>
    "int() argument must be a string, a bytes-like object or a real number, not '" ++ kind ++ "'"
  | .nan => "cannot convert float NaN to integer"
  | .notReal text => "could not convert string to float: " ++ Text.Quoted.quote text
  | .noReal kind => "float() argument must be a string or a real number, not '" ++ kind ++ "'"
  | .unprintable => unprintableMessage

inductive Refusal where
  /-- The form of the log is none of the two. -/
  | logForm (shown : String)
  /-- A value does not suit its setting. -/
  | value (cause : Misfit)
  /-- The listening address is refused. -/
  | address (text : String) (cause : AddressError)
  /-- The text of a file is refused. -/
  | file (path message : String)
  deriving DecidableEq, Repr

def Refusal.message : Refusal → String
  | .logForm shown => "Logging.format must be 'console' or 'json', got " ++ shown
  | .value cause => "Invalid configuration value: " ++ cause.message
  | .address text cause => cause.message text
  | .file path message => "Invalid configuration file " ++ path ++ ": " ++ message

/-- A condition of settings that nothing answers for. -/
inductive Breakdown where
  /-- A group of settings is no table. -/
  | notATable (kind : String)
  /-- An integer is asked of an infinite number. -/
  | infinite
  /-- A real number is asked of an integer that is too large. -/
  | tooLarge
  /-- A message needs an integer that is too long to be written. -/
  | unprintable
  /-- A file holds an integer of too many digits. -/
  | tooManyDigits (digits : Nat)
  /-- A directory stands where a file is expected. -/
  | directory (path : String)
  /-- A file is not text. -/
  | undecodable (defect : Text.Utf8.Defect)
  deriving DecidableEq, Repr

def faultText : Text.Utf8.Fault → String
  | .invalidStart => "invalid start byte"
  | .invalidContinuation => "invalid continuation byte"
  | .unexpectedEnd => "unexpected end of data"

def defectText (d : Text.Utf8.Defect) : String :=
  if d.length = 1 then
    "byte 0x" ++ String.ofList (Text.Quoted.hexDigits 2 d.first.toNat)
      ++ " in position " ++ toString d.position
  else
    "bytes in position " ++ toString d.position ++ "-" ++ toString (d.position + d.length - 1)

def Breakdown.message : Breakdown → String
  | .notATable kind => "'" ++ kind ++ "' object has no attribute 'get'"
  | .infinite => "cannot convert float infinity to integer"
  | .tooLarge => "int too large to convert to float"
  | .unprintable => unprintableMessage
  | .tooManyDigits digits => Text.Number.limitMessage digits
  | .directory path => "[Errno 21] Is a directory: " ++ Text.Quoted.quote path
  | .undecodable d => "'utf-8' codec can't decode " ++ defectText d ++ ": " ++ faultText d.fault

inductive Error where
  | refused (cause : Refusal)
  | missing (path : String)
  | breakdown (cause : Breakdown)
  deriving DecidableEq, Repr

def Error.message : Error → String
  | .refused cause => cause.message
  | .missing path => "Configuration file not found: " ++ path
  | .breakdown cause => cause.message

end FeedSieve.Settings
