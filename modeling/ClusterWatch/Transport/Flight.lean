import ClusterWatch.Transport.Error

/-!
What becomes of a ping or of an attempt to connect. Its reply is settled when it is made: an
outcome after a delay, or nothing ever. What is under way has a time by which it is given
up, if it is bounded at all; an outcome that is due at that very time still counts.
-/
namespace ClusterWatch

inductive Outcome where
  | done
  | failed (error : TransportError)
deriving DecidableEq, Repr, Inhabited

inductive Reply where
  | never
  | after (delay : Nat) (outcome : Outcome)
deriving DecidableEq, Repr, Inhabited

/-- Something under way at the transport. -/
structure Flight where
  /-- When it comes out, and how. -/
  landing : Option (Nat × Outcome)
  /-- When it is given up, and what it counts as then. -/
  limit : Option (Nat × Outcome)
deriving DecidableEq, Repr, Inhabited

namespace Flight

def launch (now : Nat) (reply : Reply) (limit : Option (Nat × Outcome)) : Flight :=
  match reply with
  | .never => ⟨none, limit⟩
  | .after delay outcome => ⟨some (now + delay, outcome), limit⟩

def outcome? (flight : Flight) (now : Nat) : Option Outcome :=
  match flight.landing.filter (·.1 ≤ now) with
  | some (_, outcome) => some outcome
  | none => (flight.limit.filter (·.1 ≤ now)).map Prod.snd

/-- The times at which something may come of it. -/
def wakeTimes (flight : Flight) : List Nat :=
  (flight.landing.toList ++ flight.limit.toList).map Prod.fst

/-- The answer comes in now, unless one has been settled before. -/
def land (flight : Flight) (now : Nat) (outcome : Outcome) : Flight :=
  match flight.landing with
  | some _ => flight
  | none => { flight with landing := some (now, outcome) }

end Flight

end ClusterWatch
