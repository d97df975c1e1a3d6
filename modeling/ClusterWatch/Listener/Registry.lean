/-!
Who is told of failures and pings. A listener may be registered several times and is told
as often; taking it out takes out its earliest registration. A listener is known by its
name; one that panics is told all the same, and what it does with the news is lost.
-/
namespace ClusterWatch

structure Listener where
  name : String
  panics : Bool
deriving DecidableEq, Repr, Inhabited

/-- Registrations, earliest first. -/
structure Registry where
  listeners : List Listener
deriving DecidableEq, Repr, Inhabited

namespace Registry

def empty : Registry := ⟨[]⟩

def add (registry : Registry) (listener : Listener) : Registry :=
  ⟨registry.listeners ++ [listener]⟩

/-- The listener's earliest registration is gone; nothing comes back if there is none. -/
def remove? (registry : Registry) (listener : Listener) : Option Registry :=
  if listener ∈ registry.listeners then some ⟨registry.listeners.erase listener⟩ else none

def size (registry : Registry) : Nat := registry.listeners.length

def isEmpty (registry : Registry) : Bool := registry.listeners.isEmpty

end Registry
end ClusterWatch
