import FeedSieve.Log.Writer
import FeedSieve.Service
import FeedSieve.Startup
import Std.Time.DateTime.Timestamp

/-!
# The command

The command starts up, and then answers the calls on the lines of the standard input. A line holds a method,
a target, and the path of a file with the feed that the target asks for: whoever listens on the network
also fetches. Without that file the feed is out of reach.
-/
namespace FeedSieve

/-- The variables that start-up looks at. -/
def knownVariables : List String :=
  ["HOME", "XDG_CONFIG_HOME", Settings.addressVariable, Settings.logLevelVariable]

def readEnvironment : IO Settings.Environment := do
  let values ← knownVariables.mapM fun name => do return (name, ← IO.getEnv name)
  return ⟨values.filterMap fun p => p.2.map fun value => (p.1, value)⟩

/-- What stands at a path. -/
def readPath (path : String) : IO Settings.Found := do
  try
    return .file (← IO.FS.readBinFile path).toList
  catch
    | .noFileOrDirectory .. => return .nothing
    | .inappropriateType _ code _ => return if code = 21 then .directory else .nothing
    | e => throw e

/-- The call of a method and a target. -/
def readCall (method target : List Char) : Service.Call where
  method := String.ofList method
  path := String.ofList (target.takeWhile (· ≠ '?'))
  query := String.ofList ((target.dropWhile (· ≠ '?')).drop 1)

/-- What the file with a feed stands for. -/
def replyOf : Settings.Found → Feed.Reply
  | .file content => .response 200 content
  | _ => .failure "unreachable"

def readClock : IO Time.Instant := do
  let elapsed := (← Std.Time.Timestamp.now).toNanosecondsSinceUnixEpoch.val / 1000
  let epoch : Time.Fields := ⟨⟨1970, 1, 1⟩, 0, 0, 0, 0⟩
  match epoch.wall?.bind fun w => w.ticks.shift? elapsed with
  | some ticks => return ⟨ticks⟩
  | none => throw (IO.userError Fault.dateOutOfRange.message)

def writeLog (w : Log.Writer) (entries : List Log.Entry) : IO Unit := do
  for e in entries do
    if let some line := w.line? Product.name e then IO.eprintln line

/-- Answers the calls of the standard input. -/
partial def serve (w : Log.Writer) (c : Settings.Config) (zones : ICalendar.Registry) : IO Unit := do
  let line ← (← IO.getStdin).getLine
  if line.isEmpty then return
  let words := (Text.splitAt ' ' (line.toList.filter (· ≠ '\n'))).filter (· ≠ [])
  let feed ← match words[2]? with
    | some path => readPath (String.ofList path)
    | none => pure .nothing
  let s := Sieve.ofConfig c fun _ => replyOf feed
  let call := readCall (words.headD []) (words.getD 1 [])
  let (zones, result) := Service.answer s zones (← readClock) call
  writeLog w result.entries
  IO.println (toString result.value.status ++ " " ++ result.value.mediaType.getD "")
  IO.println result.value.body
  serve w c zones

/-- Carries out what the command does, with its log once that is open. -/
def carryOut (w : Option Log.Writer) : List Startup.Act → IO UInt32
  | [] => return 0
  | .print output errors :: rest => do
    IO.print output
    IO.eprint errors
    carryOut w rest
  | .exit code :: _ => return code.toUInt32
  | .openLog level form :: rest => do
    match Log.Writer.open level form with
    | .error e =>
      IO.eprintln e.message
      return 1
    | .ok w => carryOut (some w) rest
  | .log entry :: rest => do
    w.forM fun w => writeLog w [entry]
    carryOut w rest
  | .run launch :: rest => do
    w.forM fun w => serve w launch.settings []
    carryOut w rest

end FeedSieve

open FeedSieve in
def main (arguments : List String) : IO UInt32 := do
  let process ← readEnvironment
  let path := (Startup.settingsPath? process arguments).getD ""
  let found ← if path = "" then pure Settings.Found.nothing else readPath path
  match Startup.start (fun _ => found) process arguments with
  | .error cause =>
    IO.eprintln cause.message
    return 1
  | .ok outcome => carryOut none outcome.acts
