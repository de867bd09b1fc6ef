/-
  Spans of time and moments of the clock, as far as they can be said.

  Both are counted in nanoseconds. The whole seconds of a span have 64 bits, those of a moment 63
  bits and a sign. A sum is exact, or there is none: whoever asks for it comes to an end there.
-/

namespace KnxIp

/-- Spans have fewer nanoseconds than this: those of 2⁶⁴ seconds. -/
def Span.limit : Nat := 18446744073709551616 * 1000000000

/-- A span of time. -/
structure Span where
  nanos : Nat
  nanos_lt : nanos < Span.limit
deriving DecidableEq, Repr

namespace Span

/-- The span of so many nanoseconds. -/
def ofNanos? (n : Nat) : Option Span :=
  if h : n < limit then some ⟨n, h⟩ else none

/-- The empty span. -/
def zero : Span := ⟨0, by decide⟩

/-- The span of so many milliseconds. -/
def ofMillis? (n : Nat) : Option Span := ofNanos? (1000000 * n)

/-- Two spans, one after the other. -/
def add? (a b : Span) : Option Span := ofNanos? (a.nanos + b.nanos)

/-- A span and others behind it, each of so many milliseconds. -/
def addMillis? (a : Span) : List Nat → Option Span
  | [] => some a
  | n :: ns => do ((← a.add? (← ofMillis? n)).addMillis? ns)

/-- Spans of so many milliseconds, one after the other. -/
def total? (ns : List Nat) : Option Span := zero.addMillis? ns

theorem ofNanos?_eq_some_iff {n : Nat} {d : Span} : ofNanos? n = some d ↔ d.nanos = n := by
  unfold ofNanos?
  split
  · rw [Option.some.injEq]
    exact ⟨fun h => h ▸ rfl, fun h => by subst h; rfl⟩
  · rename_i large
    refine iff_of_false (fun h => by cases h) fun h => large ?_
    rw [← h]
    exact d.nanos_lt

theorem ofNanos?_eq_none_iff {n : Nat} : ofNanos? n = none ↔ limit ≤ n := by
  unfold ofNanos?
  split <;> simp <;> omega

end Span

/-- The clock ends this many nanoseconds after it began, and reaches as far back: 2⁶³ seconds. -/
def Moment.limit : Nat := 9223372036854775808 * 1000000000

/-- A moment, counted from when the clock began. -/
structure Moment where
  nanos : Int
  le_nanos : -Moment.limit ≤ nanos
  nanos_lt : nanos < Moment.limit
deriving DecidableEq, Repr

namespace Moment

/-- The moment after a span of time has passed. -/
def after? (now : Moment) (d : Span) : Option Moment :=
  if h : now.nanos + d.nanos < limit then
    some ⟨now.nanos + d.nanos, by have := now.le_nanos; omega, h⟩
  else none

theorem after?_eq_some_iff {now deadline : Moment} {d : Span} :
    now.after? d = some deadline ↔ deadline.nanos = now.nanos + d.nanos := by
  unfold after?
  split
  · rw [Option.some.injEq]
    refine ⟨fun h => h ▸ rfl, fun h => ?_⟩
    obtain ⟨nanos, _, _⟩ := deadline
    subst h
    rfl
  · rename_i large
    refine iff_of_false (fun h => by cases h) fun h => large ?_
    rw [← h]
    exact deadline.nanos_lt

/-- A deadline can be said if it comes before the end of the clock. -/
theorem isSome_after?_iff {now : Moment} {d : Span} :
    (now.after? d).isSome ↔ now.nanos + d.nanos < limit := by
  unfold after?
  split
  · rename_i early
    exact iff_of_true rfl early
  · rename_i late
    exact iff_of_false (fun h => by cases h) late

end Moment
end KnxIp
