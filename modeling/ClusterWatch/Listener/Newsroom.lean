import ClusterWatch.Listener.Bulletin
import ClusterWatch.Runs

/-!
Where news is handed in and handed over. Listeners come and go, news is submitted and the bulletin
is shut, all of it at any time. One piece of news at a time is taken off the bulletin. Whoever is
registered when it is about to be handed over is told of it, one listener after another, and one
that panics holds nobody up.
-/
namespace ClusterWatch

inductive NewsEvent where
  | added (listener : Listener)
  /-- A registration of the listener is taken out, if there is one. -/
  | removed (listener : Listener) (found : Bool)
  | submitted (notice : Notice) (accepted : Bool)
  | shut
  /-- The notice is handed over, to those who are registered now. -/
  | handed (notice : Notice)
  | called (listener : Listener) (notice : Notice) (panicked : Bool)
deriving DecidableEq, Repr

structure Newsroom where
  registry : Registry
  bulletin : Bulletin
  /-- What has been taken off the bulletin and is about to be handed over. -/
  held : Option Notice
  /-- Who is still to be told of what is being handed over. -/
  pending : List (Listener × Notice)
  /-- Latest first. -/
  past : List NewsEvent
deriving DecidableEq

namespace Newsroom

inductive Action where
  | add (listener : Listener)
  | remove (listener : Listener)
  | submit (notice : Notice)
  | shut
  | take
  | hand
  | call (panicked : Bool)
deriving DecidableEq, Repr

def start : Newsroom := ⟨.empty, .empty, none, [], []⟩

def record (n : Newsroom) (event : NewsEvent) : Newsroom := { n with past := event :: n.past }

def add (n : Newsroom) (listener : Listener) : Newsroom :=
  { n with registry := n.registry.add listener }.record (.added listener)

def remove (n : Newsroom) (listener : Listener) : Newsroom :=
  match n.registry.remove? listener with
  | some registry => { n with registry }.record (.removed listener true)
  | none => n.record (.removed listener false)

def submit (n : Newsroom) (notice : Notice) : Newsroom :=
  match n.bulletin.submit? notice with
  | some bulletin => { n with bulletin }.record (.submitted notice true)
  | none => n.record (.submitted notice false)

def shut (n : Newsroom) : Newsroom :=
  { n with bulletin := n.bulletin.shutdown }.record .shut

/-- Nothing is taken off the bulletin before all that came off it has been handed over. -/
def take? (n : Newsroom) : Option Newsroom :=
  if n.held = none ∧ n.pending = [] then
    n.bulletin.next?.map fun (notice, bulletin) => { n with bulletin, held := some notice }
  else none

def hand? (n : Newsroom) : Option Newsroom :=
  n.held.map fun notice =>
    { n with held := none, pending := n.registry.told notice }.record (.handed notice)

/-- It is all the same to those behind him whether the listener panics. -/
def call? (n : Newsroom) (panicked : Bool) : Option Newsroom :=
  match n.pending with
  | [] => none
  | (listener, notice) :: rest =>
      some ({ n with pending := rest }.record (.called listener notice panicked))

/-- What an action leads to; nothing if there is nothing to take, to hand over or to tell. -/
def act (n : Newsroom) : Action → Option Newsroom
  | .add listener => some (n.add listener)
  | .remove listener => some (n.remove listener)
  | .submit notice => some (n.submit notice)
  | .shut => some n.shut
  | .take => n.take?
  | .hand => n.hand?
  | .call panicked => n.call? panicked

def acts (n : Newsroom) (actions : List Action) : Option Newsroom := runs act n actions

end Newsroom
end ClusterWatch
