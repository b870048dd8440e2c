import Warden.Net.Ip

/-! Socket addresses: an internet address and a port. -/

namespace Warden.Net

/-- An address that a server binds to. -/
inductive SocketAddress
  | v4 (octets : Octets) (port : Nat)
  | v6 (groups : List Nat) (scope : Nat) (port : Nat)
deriving Repr, DecidableEq

namespace SocketAddress

/-- Reads a colon and a port. -/
def readPort : Reader Nat := fun text => do
  let ((), text) ← readChar ':' text
  readNumber 10 65536 text

/-- Reads an optional scope after a percent sign. -/
def readScope : Reader Nat := fun text =>
  match readChar '%' text with
  | none => some (0, text)
  | some ((), rest) => readNumber 10 4294967296 rest

/-- Four octets and a port. -/
def readV4 : Reader SocketAddress := fun text => do
  let (octets, text) ← readOctets text
  let (port, text) ← readPort text
  return (.v4 octets port, text)

/-- Groups between brackets, perhaps with a scope, and a port. -/
def readV6 : Reader SocketAddress := fun text => do
  let ((), text) ← readChar '[' text
  let (groups, text) ← readIpv6 text
  let (scope, text) ← readScope text
  let ((), text) ← readChar ']' text
  let (port, text) ← readPort text
  return (.v6 groups scope port, text)

/-- Reads a whole text as a socket address. -/
def parse? (text : String) : Option SocketAddress :=
  -- The text is read to its end, or it is no address.
  match readV4 text.toList <|> readV6 text.toList with
  | some (address, []) => some address
  | _ => none

/-- The port. -/
def port : SocketAddress → Nat
  | .v4 _ port => port
  | .v6 _ _ port => port

/-- The same address with another port. -/
def withPort (port : Nat) : SocketAddress → SocketAddress
  | .v4 octets _ => .v4 octets port
  | .v6 groups scope _ => .v6 groups scope port

/-- The address without its port. -/
def hostText : SocketAddress → String
  | .v4 octets _ => octetsText octets
  | .v6 groups _ _ => ipv6Text groups

/-- The address as it is read; a scope of zero is not written. -/
def text : SocketAddress → String
  | .v4 octets port => octetsText octets ++ ":" ++ toString port
  | .v6 groups scope port =>
    "[" ++ ipv6Text groups ++ (if scope = 0 then "" else "%" ++ toString scope) ++ "]:" ++
      toString port

end SocketAddress

end Warden.Net
