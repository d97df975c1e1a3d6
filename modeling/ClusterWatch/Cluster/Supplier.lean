import ClusterWatch.Cluster.Snapshot

/-!
The supplier of cluster snapshots. It keeps the latest one and takes only newer versions.
Subscribers ask for news at times of their own choosing and are told the latest snapshot
that they have not seen, however many there were in between; that the supplier has closed
they learn once nothing unseen is left.
-/
namespace ClusterWatch

/-- A subscriber remembers how many accepted snapshots it knows to be past. -/
structure Subscription where
  seen : Nat
deriving DecidableEq, Repr, Inhabited

structure Supplier where
  localNode : Node
  current : Snapshot
  /-- How many snapshots have been accepted so far. -/
  accepted : Nat
  closed : Bool
  /-- The supplier's own subscription, by which it reads but never catches up. -/
  kept : Subscription
deriving DecidableEq, Inhabited

inductive News where
  | changed (s : Snapshot)
  | nothing
  | closed
deriving DecidableEq

inductive PublishError where
  | stale (current offered : Int)
  | closed
deriving DecidableEq, Repr

def PublishError.message : PublishError → String
  | .stale current offered =>
      "rejecting cluster state version [" ++ toString offered ++ "], current version is [" ++
        toString current ++ "]"
  | .closed => "cluster state service is closed"

namespace Supplier

def start (localNode : Node) (initial : Snapshot) : Supplier := ⟨localNode, initial, 0, false, ⟨0⟩⟩

def publish (supplier : Supplier) (s : Snapshot) : Except PublishError Supplier :=
  if supplier.closed then .error .closed
  else if s.version ≤ supplier.current.version then
    .error (.stale supplier.current.version s.version)
  else .ok { supplier with current := s, accepted := supplier.accepted + 1 }

/-- A publication that is taken is the current snapshot from then on. -/
theorem publish_eq_ok {supplier next : Supplier} {s : Snapshot}
    (h : supplier.publish s = .ok next) :
    supplier.closed = false ∧ supplier.current.version < s.version ∧
      next = { supplier with current := s, accepted := supplier.accepted + 1 } := by
  unfold publish at h
  cases closed : supplier.closed with
  | true => simp [closed] at h
  | false =>
    simp only [closed, Bool.false_eq_true, ↓reduceIte] at h
    split at h
    · cases h
    next hnewer => exact ⟨rfl, Int.not_le.1 hnewer, (Except.ok.inj h).symm⟩

theorem publish_stale_iff {supplier : Supplier} {s : Snapshot} (hopen : supplier.closed = false) :
    (∃ current offered, supplier.publish s = .error (.stale current offered)) ↔
      s.version ≤ supplier.current.version := by
  unfold publish
  rw [hopen]
  by_cases hstale : s.version ≤ supplier.current.version <;> simp [hstale]

def close (supplier : Supplier) : Supplier := { supplier with closed := true }

/-- A subscriber that reads the current snapshot has seen it. -/
def catchUp (supplier : Supplier) (subscription : Subscription) : Subscription :=
  { subscription with seen := supplier.accepted }

/-- Once the supplier has closed, subscribers get its own subscription, caught up. -/
def subscribe (supplier : Supplier) : Subscription :=
  if supplier.closed then supplier.catchUp supplier.kept else ⟨supplier.accepted⟩

/-- Closed or not, a new subscriber has seen the current snapshot and nothing later. -/
theorem subscribe_eq (supplier : Supplier) : supplier.subscribe = ⟨supplier.accepted⟩ := by
  unfold subscribe
  split <;> rfl

def poll (supplier : Supplier) (subscription : Subscription) : News × Subscription :=
  if subscription.seen < supplier.accepted then
    (.changed supplier.current, supplier.catchUp subscription)
  else if supplier.closed then (.closed, subscription)
  else (.nothing, subscription)

end Supplier
end ClusterWatch
