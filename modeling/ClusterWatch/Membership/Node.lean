import ClusterWatch.Net.SocketAddress
import ClusterWatch.Net.SocketAddress.Printer
import ClusterWatch.Table

/-!
Members of a cluster. A node is known by its id: two records are the same member when
their ids agree, whatever their names and addresses. A membership lists each id once.
-/
namespace ClusterWatch

structure NodeId where
  text : String
deriving DecidableEq, Repr, Inhabited

/-- Pings that carry the name of another cluster are refused by their receiver. -/
structure ClusterName where
  text : String
deriving DecidableEq, Repr, Inhabited

structure Node where
  id : NodeId
  name : String
  address : Net.SocketAddress
deriving DecidableEq, Repr, Inhabited

namespace Node

/-- A node without a name of its own goes by its id. -/
def named (id : NodeId) (address : Net.SocketAddress) (name : Option String) : Node :=
  ⟨id, name.getD id.text, address⟩

def sameMember (n m : Node) : Bool := n.id == m.id

def text (n : Node) : String :=
  "\x7b" ++ n.name ++ "\x7d\x7b" ++ n.id.text ++ "\x7d\x7b" ++ n.address.text ++ "\x7d"

def key (n : Node) : String := n.id.text

end Node

abbrev Membership := Table Node Node.key

/-- How many different members a list of records speaks of. -/
def Membership.distinctCount (nodes : List Node) : Nat :=
  (Table.ofList Node.key nodes).entries.length

end ClusterWatch
