import ClusterWatch.Membership.Node

/-!
Ids for nodes that are given none: 122 random bits in the form of a random universal
identifier, thirty-two hexadecimal digits in five groups, with the digit 4 for the version
and one of 8, 9, a, b for the variant.
-/
namespace ClusterWatch.NodeId

private def hexDigits (digits value : Nat) : List Char :=
  let text := Nat.toDigits 16 value
  List.replicate (digits - text.length) '0' ++ text

/-- Of the random words, only as many low bits are used as the group has room for. -/
def ofRandom (first second third fourth fifth : Nat) : NodeId :=
  ⟨String.ofList (List.intercalate ['-'] [
    hexDigits 8 (first % UInt32.size),
    hexDigits 4 (second % UInt16.size),
    hexDigits 4 (0x4000 + third % 0x1000),
    hexDigits 4 (0x8000 + fourth % 0x4000),
    hexDigits 12 (fifth % (UInt32.size * UInt16.size))])⟩

end ClusterWatch.NodeId
