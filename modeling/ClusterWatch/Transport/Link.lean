import ClusterWatch.Table
import ClusterWatch.Transport.Flight

/-!
The transport as the detector meets it: the answers that nodes will give to pings and to
attempts to connect. They may be changed at any time, so every behaviour of a transport is
the behaviour of some link.
-/
namespace ClusterWatch

structure Link where
  /-- Answers to the coming pings of a node, one each. -/
  scripts : Table (String × List Reply) Prod.fst
  /-- The answer to pings that no script is left for. -/
  replies : Table (String × Reply) Prod.fst
  /-- Answers to attempts to connect, one each, the last of them for all that follow. -/
  connects : Table (String × List Reply) Prod.fst
  /-- The answer to pings of a node that nothing else is said of. -/
  otherwise : Reply
  /-- How many of the latest disconnect events are kept for a follower that falls behind. -/
  backlog : Nat
deriving DecidableEq, Inhabited

namespace Link

def atOnce : Reply := .after 0 .done

/-- Every ping is acknowledged at once and every attempt to connect succeeds at once. -/
def ideal : Link := ⟨.empty, .empty, .empty, atOnce, 4⟩

/-- No ping is ever answered. -/
def silent : Link := ⟨.empty, .empty, .empty, .never, 4⟩

def setScript (link : Link) (id : NodeId) (replies : List Reply) : Link :=
  { link with scripts := link.scripts.insert (id.text, replies) }

def setReply (link : Link) (id : NodeId) (reply : Reply) : Link :=
  { link with replies := link.replies.insert (id.text, reply) }

def setConnects (link : Link) (id : NodeId) (replies : List Reply) : Link :=
  { link with connects := link.connects.insert (id.text, replies) }

def takePing (link : Link) (id : NodeId) : Reply × Link :=
  match link.scripts.find? id.text with
  | some (_, reply :: rest) => (reply, link.setScript id rest)
  | _ => (((link.replies.find? id.text).map Prod.snd).getD link.otherwise, link)

def takeConnect (link : Link) (id : NodeId) : Reply × Link :=
  match link.connects.find? id.text with
  | some (_, reply :: next :: rest) => (reply, link.setConnects id (next :: rest))
  | some (_, [reply]) => (reply, link)
  | _ => (atOnce, link)

end Link
end ClusterWatch
