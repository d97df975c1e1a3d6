/-!
Addresses of datagram sockets: an Internet address of either version with a number
from 0 to 65535 that tells the sockets of one host apart. A version 6 address may be
bound to one of the host's interfaces by its scope, and its packets to one flow, zero meaning
none of them.
-/
namespace ClusterWatch.Net

structure Ipv4 where
  a : UInt8
  b : UInt8
  c : UInt8
  d : UInt8
deriving DecidableEq, Repr, Inhabited

/-- The eight groups of sixteen bits, first group first. -/
structure Ipv6 where
  a : UInt16
  b : UInt16
  c : UInt16
  d : UInt16
  e : UInt16
  f : UInt16
  g : UInt16
  h : UInt16
deriving DecidableEq, Repr, Inhabited

namespace Ipv6

def groups (ip : Ipv6) : List UInt16 :=
  [ip.a, ip.b, ip.c, ip.d, ip.e, ip.f, ip.g, ip.h]

def ofGroups? : List UInt16 → Option Ipv6
  | [a, b, c, d, e, f, g, h] => some ⟨a, b, c, d, e, f, g, h⟩
  | _ => none

end Ipv6

inductive SocketAddress where
  | v4 (ip : Ipv4) (socket : UInt16)
  | v6 (ip : Ipv6) (socket : UInt16) (flow scope : UInt32)
deriving DecidableEq, Repr

namespace SocketAddress

instance : Inhabited SocketAddress := ⟨.v4 default 0⟩

/-- What is left of an address once it has travelled in a message: flow and scope are local. -/
def travelled : SocketAddress → SocketAddress
  | .v4 ip socket => .v4 ip socket
  | .v6 ip socket _ _ => .v6 ip socket 0 0

/-- The same host's socket of another number. -/
def withSocket (number : UInt16) : SocketAddress → SocketAddress
  | .v4 ip _ => .v4 ip number
  | .v6 ip _ flow scope => .v6 ip number flow scope

end SocketAddress
end ClusterWatch.Net
