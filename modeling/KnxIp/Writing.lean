/-
  Writings: what a writer of octets does to its buffer.

  A writer is given a slice of a buffer, which may hold anything. It puts octets at places of the
  slice, or hands a part of it to another writer. An octet or a part that is not there ends it at
  once (`Stop.outside`), as it does a reader. A fault leaves the slice as far as it was written.
-/
import KnxIp.Reading

namespace KnxIp

/-- A writer: what it makes of the slice it is given, and how it ends. -/
abbrev Writing (α : Type) := EStateM Stop Bytes α

namespace Writing

variable {α : Type}

/-- Ends with a fault if the condition holds. -/
def refuse (condition : Prop) [Decidable condition] (f : FramingFault) : Writing Unit :=
  if condition then throw (.fault (.framing f)) else pure ()

/-- Ends unless the slice has as many octets as needed. -/
def require (needed : Nat) : Writing Unit := do
  refuse ((← get).length < needed) .bufferTooSmall

/-- Puts an octet at a place. -/
def put (place : Nat) (b : UInt8) : Writing Unit := fun slice =>
  if place < slice.length then .ok () (slice.set place b) else .error .outside slice

/-- Hands the octets from `start` up to the one before `stop` to another writer. -/
def within (start stop : Nat) (w : Writing α) : Writing α := fun slice =>
  if start ≤ stop ∧ stop ≤ slice.length then
    match w.run ((slice.take stop).drop start) with
    | .ok a part => .ok a (slice.take start ++ part ++ slice.drop stop)
    | .error s part => .error s (slice.take start ++ part ++ slice.drop stop)
  else .error .outside slice

/-- Hands the octets from `start` to the end to another writer. -/
def behind (start : Nat) (w : Writing α) : Writing α := fun slice =>
  (within start slice.length w).run slice

/-- Copies octets over the whole slice, which must have as many. -/
def cover (octets : Bytes) : Writing Unit := fun slice =>
  if slice.length = octets.length then .ok () octets else .error .outside slice

/-- Copies octets over those from `start` up to the one before `stop`. -/
def copy (start stop : Nat) (octets : Bytes) : Writing Unit := within start stop (cover octets)

/-- Makes every octet of the slice the same. -/
def fill (b : UInt8) : Writing Unit := modify fun slice => slice.map fun _ => b

/-- Goes through the slice and the octets side by side, and puts each octet at its place. It ends
with the shorter of the two. -/
def sideBySide (octets : Bytes) : Writing Unit := modify (overlaid octets)
where
  overlaid : Bytes → Bytes → Bytes
    | b :: octets, _ :: slice => b :: overlaid octets slice
    | _, slice => slice

/-- Lets a writer go on behind `offset` octets, and moves the offset on by what it wrote. -/
def append (offset : Nat) (w : Writing Nat) : Writing Nat := do
  let count ← behind offset w
  return offset + count

end Writing
end KnxIp
