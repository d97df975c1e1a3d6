import ClusterWatch.Text.Blank
import ClusterWatch.Text.Decimal

/-!
How many copies of each shard an operation waits for: a number, all of them, or what the
index itself is set to. People write such a count as a number or a word, in any case of
letters and with blanks around it.
-/
namespace ClusterWatch

inductive ShardCount where
  | indexDefault
  | all
  | copies (n : Nat)
deriving DecidableEq, Repr

namespace ShardCount

instance : Inhabited ShardCount := ⟨.indexDefault⟩

/-- Waiting for no copy is not waiting. -/
def isNone (count : ShardCount) : Bool := count = .copies 0

/-- Whether shards with the given number of replicas have that many copies at all. -/
def validate (replicas : Nat) : ShardCount → Bool
  | .indexDefault => true
  | .all => true
  | .copies n => n ≤ replicas + 1

def text : ShardCount → String
  | .indexDefault => "default"
  | .all => "all"
  | .copies n => toString n

instance : ToString ShardCount := ⟨text⟩

/-- The text that was given, in full, where it is no count. -/
structure Malformed where
  given : String
deriving DecidableEq, Repr

def Malformed.message (e : Malformed) : String :=
  "cannot parse active shard count [" ++ e.given ++
    "]: expected `all`, `default` or a non-negative integer"

def parse (given : String) : Except Malformed ShardCount :=
  let word := (Text.strip given.toList).map Char.toLower
  if word = "all".toList then .ok .all
  else if word = "default".toList then .ok .indexDefault
  else match Text.unsigned? Text.bound32 word with
    | some n => .ok (.copies n)
    | none => .error ⟨given⟩

end ShardCount
end ClusterWatch
