import FeedSieve.Text.Number
import FeedSieve.Text.Quoted

/-!
# Socket addresses

An address is `host:port`, split at the last colon. A host in brackets loses them. The port is an
integer from 1 to 65535.
-/
namespace FeedSieve.Settings

def addressVariable : String := "ICAL_FILTER_SOCKETADDR"

inductive AddressError where
  | shape | port | range
  deriving DecidableEq, Repr

def AddressError.message (value : String) : AddressError → String
  | .shape => addressVariable ++ " must be host:port, got " ++ Text.Quoted.quote value
  | .port => "Invalid port in " ++ Text.Quoted.quote value
  | .range => "Port out of range in " ++ Text.Quoted.quote value

def splitLast (mark : Char) : List Char → Option (List Char × List Char)
  | [] => none
  | c :: rest =>
    match splitLast mark rest with
    | some (before, after) => some (c :: before, after)
    | none => if c = mark then some ([], rest) else none

/-- Removes the brackets around a host that has both. -/
def unbracket (host : List Char) : List Char :=
  if host.head? = some '[' ∧ host.getLast? = some ']' then host.tail.dropLast else host

def parseAddress (value : String) : Except AddressError (String × Int) :=
  match splitLast ':' value.toList with
  | none => .error .shape
  | some ([], _) => .error .shape
  | some (host, port) =>
    match Text.Number.int? (String.ofList port) with
    | .error _ => .error .port
    | .ok n =>
      if 0 < n ∧ n < 65536 then .ok (String.ofList (unbracket host), n) else .error .range

def printAddress (host : String) (port : Int) : String := host ++ ":" ++ toString port

end FeedSieve.Settings
