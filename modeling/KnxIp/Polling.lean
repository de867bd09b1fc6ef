/-
  Polling: looking again and again whether something has happened, until a deadline.

  Time is counted in ticks of a clock on which a check takes no time and a pause lasts as long as
  asked for. The first check comes at once and the last one at the deadline itself; between them
  one check follows the other after `interval` ticks, at least one.
-/

namespace KnxIp

namespace Polling

/-- How polling ended: what was found, and how many checks were made. -/
structure Outcome (α : Type) where
  found : Option α
  checks : Nat

/-- Polls from the time `now` on, after `made` checks. A check may look at its number, counted
from 1, and at the time. -/
def runFrom {α : Type} (check : Nat → Nat → Option α) (timeout interval made now : Nat) :
    Outcome α :=
  match check (made + 1) now with
  | some a => ⟨some a, made + 1⟩
  | none =>
    if timeout ≤ now then ⟨none, made + 1⟩
    else runFrom check timeout interval (made + 1) (now + min (max interval 1) (timeout - now))
termination_by timeout - now

/-- Polls from now on until `timeout` ticks have passed. -/
def run {α : Type} (check : Nat → Nat → Option α) (timeout interval : Nat) : Outcome α :=
  runFrom check timeout interval 0 0

/-- Polls from the time `now` on with a check that may change something whenever it looks: what it
leaves behind is what the next check finds. -/
def pollFrom {σ α : Type} (look : Nat → σ → Option α × σ) (timeout interval now : Nat) (s : σ) :
    Option α × σ :=
  match look now s with
  | (some a, s) => (some a, s)
  | (none, s) =>
    if timeout ≤ now then (none, s)
    else pollFrom look timeout interval (now + min (max interval 1) (timeout - now)) s
termination_by timeout - now

/-- Polls with such a check from now on until `timeout` ticks have passed. -/
def poll {σ α : Type} (look : Nat → σ → Option α × σ) (timeout interval : Nat) (s : σ) :
    Option α × σ :=
  pollFrom look timeout interval 0 s

/-- A check that counts how often it has looked. -/
def counted {α : Type} (check : Nat → Nat → Option α) (now made : Nat) : Option α × Nat :=
  (check (made + 1) now, made + 1)

/-- The pause between two looks for an answer or a value, in milliseconds. -/
def pause : Nat := 10

/-- Whether something that ends at the time `finish` ends before the deadline. -/
def waitFor (finish timeout interval : Nat) : Bool :=
  (run (fun _ now => if finish ≤ now then some () else none) timeout interval).found.isSome

end Polling
end KnxIp
