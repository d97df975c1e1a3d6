/-!
How values travel as bytes. A format writes a value as a run of bytes and reads one off the
front of some bytes, leaving the rest. Words are little-endian and of fixed width, a text
is its length in a word of eight bytes and then its UTF-8 bytes, and flags and the presence
of an optional value take one byte that has to be zero or one.
-/
namespace ClusterWatch.Wire

abbrev Bytes := List UInt8

structure Format (α : Type) where
  encode : α → Bytes
  decode : Bytes → Option (α × Bytes)

namespace Format

variable {α β : Type}

def unit : Format Unit := ⟨fun _ => [], fun bytes => some ((), bytes)⟩

def octet : Format UInt8 where
  encode b := [b]
  decode
    | [] => none
    | b :: rest => some (b, rest)

def pair (first : Format α) (second : Format β) : Format (α × β) where
  encode v := first.encode v.1 ++ second.encode v.2
  decode bytes := do
    let (a, bytes) ← first.decode bytes
    let (b, bytes) ← second.decode bytes
    return ((a, b), bytes)

/-- Values of one type written as those of another. -/
def via (format : Format α) (wrap : α → β) (unwrap : β → α) : Format β where
  encode v := format.encode (unwrap v)
  decode bytes := (format.decode bytes).map fun (a, rest) => (wrap a, rest)

def encodeWord : (width : Nat) → Nat → Bytes
  | 0, _ => []
  | width + 1, n => n.toUInt8 :: encodeWord width (n / 256)

def decodeWord : (width : Nat) → Bytes → Option (Nat × Bytes)
  | 0, bytes => some (0, bytes)
  | _ + 1, [] => none
  | width + 1, b :: rest =>
      (decodeWord width rest).map fun (n, rest) => (b.toNat + 256 * n, rest)

/-- A number from zero up to what the width can hold, its lowest byte first. -/
def word (width : Nat) : Format Nat := ⟨encodeWord width, decodeWord width⟩

/-- A number of either sign, the upper half of the words standing for the negative ones. -/
def signedWord (width : Nat) : Format Int :=
  (word width).via (fun n => Int.bmod n (Nat.pow 256 width))
    (fun i => (i % Nat.pow 256 width).toNat)

def flag : Format Bool where
  encode b := [if b then 1 else 0]
  decode
    | 0 :: rest => some (false, rest)
    | 1 :: rest => some (true, rest)
    | _ => none

def optional (format : Format α) : Format (Option α) where
  encode
    | none => [0]
    | some v => 1 :: format.encode v
  decode
    | 0 :: rest => some (none, rest)
    | 1 :: rest => (format.decode rest).map fun (v, rest) => (some v, rest)
    | _ => none

def utf8 (text : String) : Bytes := text.toByteArray.data.toList

def text : Format String where
  encode s := (word 8).encode (utf8 s).length ++ utf8 s
  decode bytes := do
    let (size, bytes) ← (word 8).decode bytes
    if bytes.length < size then none
    else
      let s ← String.fromUTF8? (bytes.take size).toByteArray
      return (s, bytes.drop size)

end Format
end ClusterWatch.Wire
