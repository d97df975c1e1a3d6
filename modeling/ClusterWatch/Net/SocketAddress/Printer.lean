import ClusterWatch.Net.SocketAddress

/-!
The canonical text of a socket address. Version 6 groups are written in lower-case
hexadecimal; the longest run of at least two zero groups, the first such run if several
are equally long, is written as two colons, and an address that stands for a version 4
address is written with that address in it.
-/
namespace ClusterWatch.Net

def Ipv4.text (ip : Ipv4) : String :=
  String.intercalate "." ([ip.a, ip.b, ip.c, ip.d].map (fun octet => toString octet.toNat))

/-- Start and length of the longest run of zero groups, the first of equally long ones. -/
def longestZeroRun (start : Nat) : List UInt16 → Nat × Nat
  | [] => (start, 0)
  | group :: rest =>
      let here := ((group :: rest).takeWhile (· == 0)).length
      let later := longestZeroRun (start + 1) rest
      if later.2 ≤ here then (start, here) else later

private def groupText (group : UInt16) : String :=
  String.ofList (Nat.toDigits 16 group.toNat)

private def groupsText (groups : List UInt16) : String :=
  String.intercalate ":" (groups.map groupText)

def Ipv6.text (ip : Ipv6) : String :=
  match ip with
  | ⟨0, 0, 0, 0, 0, 0xffff, g, h⟩ =>
      "::ffff:" ++
        Ipv4.text ⟨(g >>> 8).toUInt8, g.toUInt8, (h >>> 8).toUInt8, h.toUInt8⟩
  | _ =>
      let (start, length) := longestZeroRun 0 ip.groups
      if 2 ≤ length then
        groupsText (ip.groups.take start) ++ "::" ++ groupsText (ip.groups.drop (start + length))
      else groupsText ip.groups

def SocketAddress.text : SocketAddress → String
  | .v4 ip socket => ip.text ++ ":" ++ toString socket.toNat
  | .v6 ip socket _ scope =>
      let scopeText := if scope = 0 then "" else "%" ++ toString scope.toNat
      "[" ++ ip.text ++ scopeText ++ "]:" ++ toString socket.toNat

instance : ToString SocketAddress := ⟨SocketAddress.text⟩

end ClusterWatch.Net
