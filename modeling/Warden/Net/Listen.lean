import Warden.Net.Host
import Warden.Net.SocketAddress

/-! Listening: finding the addresses that a text asks for, and binding to the first that is free. -/

namespace Warden.Net

/-- Why nothing listens. -/
inductive ListenError
  | badAddress
  | badPort
  | nulInHost
  | unknownHost
  | denied
  | notLocal
deriving Repr, DecidableEq, Inhabited

/-- What a report says of it. -/
def ListenError.message : ListenError → String
  | .badAddress => "invalid socket address"
  | .badPort => "invalid port value"
  | .nulInHost => "file name contained an unexpected NUL byte"
  | .unknownHost => "failed to lookup address information: Name or service not known"
  | .denied => "Permission denied (os error 13)"
  | .notLocal => "Cannot assign requested address (os error 99)"

/-- A machine: the addresses of the hosts that it knows by name, how it treats a wish to bind, and
whether those who listen on it can be reached. -/
structure Machine where
  known : String → List SocketAddress
  bind : SocketAddress → Except ListenError SocketAddress
  reachable : Bool

/-- The text before the last colon and the text behind it. -/
def splitPort (text : List Char) : Option (List Char × List Char) :=
  match text.reverse.dropWhile (· != ':') with
  | [] => none
  | _ :: host => some (host.reverse, (text.reverse.takeWhile (· != ':')).reverse)

/-- A port in decimal digits, with an optional plus sign. -/
def portNumber? (text : List Char) : Option Nat :=
  let digits := match text with
    | '+' :: digits => digits
    | digits => digits
  (Text.readNat? 10 digits).filter (· < 65536)

/-- The address that a host denotes by itself: up to four numbers between dots, or a version 6
address. -/
def numericHost? (host : List Char) : Option SocketAddress :=
  match Host.parseIpv4 host, readIpv6 host with
  | .ok (.ipv4 value), _ =>
    -- A dot at the end makes a name of it.
    if host.getLast? = some '.' then none
    else some (.v4 [value / 16777216 % 256, value / 65536 % 256, value / 256 % 256, value % 256] 0)
  | _, some (groups, []) => some (.v6 groups 0 0)
  | _, _ => none

/-- The addresses that a text asks for. -/
def Machine.lookUp (machine : Machine) (text : String) :
    Except ListenError (List SocketAddress) :=
  -- A text that is an address asks for that address; any other is a host and a port.
  match SocketAddress.parse? text with
  | some address => .ok [address]
  | none =>
    match splitPort text.toList with
    | none => .error .badAddress
    | some (host, port) =>
      match portNumber? port with
      | none => .error .badPort
      | some port =>
        if host.contains '\x00' then .error .nulInHost
        else
          -- Names are looked up only if the host is no number.
          match numericHost? host with
          | some address => .ok [address.withPort port]
          | none => .ok ((machine.known (String.ofList host)).map (·.withPort port))

/-- Binds to the first address that the machine grants; if it grants none, the last refusal
counts. -/
def Machine.bindFirst (machine : Machine) : ListenError → List SocketAddress →
    Except ListenError SocketAddress
  | refusal, [] => .error refusal
  -- The refusal that is handed over is that of the last address so far.
  | _, address :: rest =>
    match machine.bind address with
    | .ok bound => .ok bound
    | .error refusal => machine.bindFirst refusal rest

/-- Listens where a text asks for. -/
def Machine.listen (machine : Machine) (text : String) : Except ListenError SocketAddress :=
  match machine.lookUp text with
  | .error e => .error e
  | .ok addresses => machine.bindFirst .unknownHost addresses

/-- Whether an address belongs to every machine. -/
def SocketAddress.isOwn : SocketAddress → Bool
  | .v4 octets _ => octets.head? == some 127 || octets == [0, 0, 0, 0]
  | .v6 groups _ _ =>
    groups == [0, 0, 0, 0, 0, 0, 0, 0] || groups == [0, 0, 0, 0, 0, 0, 0, 1]

/-- The first of the ports that are given out when none is asked for. -/
def firstFreePort : Nat := 49152

/-- A machine that knows itself only, lets nobody choose a port and lets no connection through. -/
def secluded : Machine where
  known host := if host == "localhost" then [.v4 [127, 0, 0, 1] 0] else []
  bind address :=
    -- A port is chosen by the machine, for itself.
    if address.port ≠ 0 then .error .denied
    else if address.isOwn then .ok (address.withPort firstFreePort)
    else .error .notLocal
  reachable := false

end Warden.Net
