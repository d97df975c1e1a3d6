import ClusterWatch.Net.SocketAddress

/-!
Reading a socket address from text. No names are looked up: an address is four decimal
octets without leading zeros, or a version 6 address in brackets, with at most one pair of
colons for a run of zero groups, the last two groups perhaps in version 4 form, and a
decimal scope after a percent sign. The socket's number follows a colon.
-/
namespace ClusterWatch.Net

/-- A reader takes what it understands off the front of the text. -/
abbrev Reader (α : Type) := List Char → Option (α × List Char)

private def hexValue? (c : Char) : Option Nat :=
  if '0' ≤ c ∧ c ≤ '9' then some (c.toNat - '0'.toNat)
  else if 'a' ≤ c ∧ c ≤ 'f' then some (c.toNat - 'a'.toNat + 10)
  else if 'A' ≤ c ∧ c ≤ 'F' then some (c.toNat - 'A'.toNat + 10)
  else none

private def digitValue? (radix : Nat) (c : Char) : Option Nat :=
  (hexValue? c).filter (· < radix)

/-- How a number in an address may be written. -/
structure NumberStyle where
  radix : Nat
  maxDigits : Option Nat
  leadingZeros : Bool
  bound : Nat

/-- Takes all digits that follow; refuses too many of them or too large a value. -/
def readNumber (style : NumberStyle) : Reader Nat := fun text =>
  let digits := (text.takeWhile (fun c => (digitValue? style.radix c).isSome)).filterMap
    (digitValue? style.radix)
  let value := digits.foldl (fun n d => style.radix * n + d) 0
  let tooLong := match style.maxDigits with
    | none => false
    | some most => most < digits.length
  let zeroFirst := digits.head? == some 0 && 1 < digits.length
  if digits.isEmpty || tooLong || (zeroFirst && !style.leadingZeros) ||
      style.bound ≤ value then none
  else some (value, text.drop digits.length)

def readChar (expected : Char) : Reader Unit
  | [] => none
  | c :: rest => if c = expected then some ((), rest) else none

private def octetStyle : NumberStyle := ⟨10, some 3, false, 256⟩

private def groupStyle : NumberStyle := ⟨16, some 4, true, 65536⟩

private def socketStyle : NumberStyle := ⟨10, none, true, 65536⟩

private def scopeStyle : NumberStyle := ⟨10, none, true, 4294967296⟩

def readIpv4 : Reader Ipv4 := fun text => do
  let (a, text) ← readNumber octetStyle text
  let (_, text) ← readChar '.' text
  let (b, text) ← readNumber octetStyle text
  let (_, text) ← readChar '.' text
  let (c, text) ← readNumber octetStyle text
  let (_, text) ← readChar '.' text
  let (d, text) ← readNumber octetStyle text
  return (⟨a.toUInt8, b.toUInt8, c.toUInt8, d.toUInt8⟩, text)

/-- Every group but the first comes after a colon. -/
private def readAfterColon {α : Type} (first : Bool) (reader : Reader α) : Reader α := fun text =>
  if first then reader text
  else (readChar ':' text).bind (fun (_, rest) => reader rest)

/-- What a run of groups was found to be: the groups, whether version 4 form ended it, the rest. -/
structure GroupRun where
  groups : List UInt16
  endsInIpv4 : Bool
  rest : List Char

/-- At most `room` groups; an address in version 4 form takes two of them and ends the run. -/
def readGroups : (room : Nat) → (first : Bool) → List Char → GroupRun
  | 0, _, text => ⟨[], false, text⟩
  | room + 1, first, text =>
      match (if 1 ≤ room then readAfterColon first readIpv4 text else none) with
      | some (ip, rest) =>
          ⟨[ip.a.toUInt16 * 256 + ip.b.toUInt16, ip.c.toUInt16 * 256 + ip.d.toUInt16], true, rest⟩
      | none =>
          match readAfterColon first (readNumber groupStyle) text with
          | none => ⟨[], false, text⟩
          | some (group, rest) =>
              let later := readGroups room false rest
              { later with groups := group.toUInt16 :: later.groups }

def readIpv6 : Reader Ipv6 := fun text => do
  let front := readGroups 8 true text
  if front.groups.length = 8 then
    let ip ← Ipv6.ofGroups? front.groups
    return (ip, front.rest)
  if front.endsInIpv4 then none
  let (_, text) ← readChar ':' front.rest
  let (_, text) ← readChar ':' text
  let back := readGroups (7 - front.groups.length) true text
  let zeros := 8 - front.groups.length - back.groups.length
  let ip ← Ipv6.ofGroups? (front.groups ++ List.replicate zeros 0 ++ back.groups)
  return (ip, back.rest)

private def readSocketNumber : Reader UInt16 := fun text => do
  let (_, text) ← readChar ':' text
  let (number, text) ← readNumber socketStyle text
  return (number.toUInt16, text)

private def readScope : Reader UInt32 := fun text => do
  let (_, text) ← readChar '%' text
  let (number, text) ← readNumber scopeStyle text
  return (number.toUInt32, text)

def readSocketAddress : Reader SocketAddress := fun text =>
  match (do
    let (ip, text) ← readIpv4 text
    let (socket, text) ← readSocketNumber text
    return (SocketAddress.v4 ip socket, text)) with
  | some found => some found
  | none => do
      let (_, text) ← readChar '[' text
      let (ip, text) ← readIpv6 text
      let (scope, text) := (readScope text).getD (0, text)
      let (_, text) ← readChar ']' text
      let (socket, text) ← readSocketNumber text
      return (SocketAddress.v6 ip socket 0 scope, text)

/-- The address that is written by the whole of the text. -/
def SocketAddress.parse? (text : String) : Option SocketAddress :=
  match readSocketAddress text.toList with
  | some (address, []) => some address
  | _ => none

/-- What is said of text that is no address. -/
def SocketAddress.malformed : String := "invalid socket address syntax"

end ClusterWatch.Net
