/-
  Sequence numbers of tunneled telegrams: they count up from 0 and go from 255 back to 0.
-/

namespace KnxIp

/-- A counter of sequence numbers. -/
structure SequenceCounter where
  /-- The number that comes next. -/
  next : UInt8
deriving DecidableEq, Repr

namespace SequenceCounter

/-- The counter at its start. -/
def start : SequenceCounter := ⟨0⟩

/-- Takes the next number. -/
def take (c : SequenceCounter) : UInt8 × SequenceCounter := (c.next, ⟨c.next + 1⟩)

/-- Takes the next `n` numbers. -/
def takeMany : Nat → SequenceCounter → List UInt8 × SequenceCounter
  | 0, c => ([], c)
  | n + 1, c =>
    let (first, c) := c.take
    let (rest, c) := takeMany n c
    (first :: rest, c)

end SequenceCounter
end KnxIp
