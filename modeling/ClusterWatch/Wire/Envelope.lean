import ClusterWatch.Wire.Record

/-!
What a datagram holds: a request with the action it is for, the acknowledgment of a
request, or the reason why one was refused. Requests carry a number that is theirs alone,
and answers carry the number of the request they answer.
-/
namespace ClusterWatch.Wire

inductive Envelope where
  | request (number : Nat) (action : String) (ping : PingRequest)
  | response (number : Nat)
  | error (number : Nat) (message : String)
deriving DecidableEq, Repr

namespace Envelope

open Format

def kind : Format Nat := word 4

def requestBody : Format (Nat × String × PingRequest) :=
  (word 8).pair (text.pair pingRequest)

def errorBody : Format (Nat × String) := (word 8).pair text

def format : Format Envelope where
  encode
    | .request number action ping => kind.encode 0 ++ requestBody.encode (number, action, ping)
    | .response number => kind.encode 1 ++ (word 8).encode number
    | .error number message => kind.encode 2 ++ errorBody.encode (number, message)
  decode bytes := do
    let (kind, bytes) ← kind.decode bytes
    match kind with
    | 0 =>
        let ((number, action, ping), bytes) ← requestBody.decode bytes
        return (.request number action ping, bytes)
    | 1 =>
        let (number, bytes) ← (word 8).decode bytes
        return (.response number, bytes)
    | 2 =>
        let ((number, message), bytes) ← errorBody.decode bytes
        return (.error number message, bytes)
    | _ => none

def encode (e : Envelope) : Bytes := format.encode e

/-- Bytes after the end of an envelope are ignored. -/
def decode? (bytes : Bytes) : Option Envelope := (format.decode bytes).map Prod.fst

end Envelope
end ClusterWatch.Wire
