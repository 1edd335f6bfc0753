import PocketLink.Link.Socket

/-!
# Peers

A peer is the device's end of one connection of a socket. It stays with that connection when the
socket lets go of it: it acts on it, takes the bytes that came over it, and sees it end.
-/

namespace PocketLink

/-- The device's end of a connection. -/
structure Peer where
  /-- How many connections the socket had held before. -/
  serial : Nat
  /-- How many of the bytes that were sent to it it has taken. -/
  taken : Nat := 0
  deriving DecidableEq, Repr

namespace Peer

/-- The channel of the connection. -/
def channel? (p : Peer) (s : Socket) : Option Channel :=
  if p.serial = s.retired.length then s.current else s.retired.reverse[p.serial]?

/-- The peer of the connection that was made between two states of a socket, if one was. -/
def ofOpened? (before after : Socket) : Option Peer :=
  if before.connections < after.connections then some { serial := before.connections } else none

/-- The socket after the device acted on its end. Only an open connection carries what it does. -/
def act (p : Peer) (act : Act) (s : Socket) : Socket :=
  match s.current with
  | some channel =>
    if p.serial = s.retired.length then s.holding (channel.perform act) else s
  | none => s

/-- The bytes that came since the peer last took some. -/
def arrived (p : Peer) (s : Socket) : List UInt8 :=
  match p.channel? s with
  | some channel => channel.sent.drop p.taken
  | none => []

/-- The peer after it took all bytes that came. -/
def caughtUp (p : Peer) (s : Socket) : Peer := { p with taken := p.taken + (p.arrived s).length }

/-- Whether the peer sees that the connection was ended. -/
def sawEnd (p : Peer) (s : Socket) : Bool :=
  match p.channel? s with
  | some channel => channel.isShut
  | none => false

end Peer

end PocketLink
