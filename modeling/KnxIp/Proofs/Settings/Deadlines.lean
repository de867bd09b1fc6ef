/-
  Which deadlines the settings of a text allow.

  Every duration in a text is a number of 64 bits; it counts seconds for the keep-alive interval and
  milliseconds everywhere else (`wide_settings`). So no sum of durations is too large, and all
  deadlines but that of the keep-alive lie well before the end of the clock. The keep-alive
  interval alone reaches beyond it, since it is only compared with zero.

  Main statement: the waits that the settings of an accepted text ask for can all be added up, each
  but the keep-alive has its deadline, and the keep-alive has one exactly if its interval ends
  before the clock does (`deadlines_of_ofProperties`).
-/
import KnxIp.Proofs.Settings.Lines
import KnxIp.Settings.Waits
import Mathlib.Algebra.GroupWithZero.Nat

namespace KnxIp

namespace Span

/-- Spans are added to a first one exactly, or the sum is too large: if it is so early, it stays
so. -/
theorem addMillis?_eq_some_iff {a d : Span} {ns : List Nat} :
    a.addMillis? ns = some d ↔ d.nanos = a.nanos + 1000000 * ns.sum := by
  have bound := d.nanos_lt
  induction ns generalizing a with
  | nil =>
    rw [addMillis?, Option.some.injEq, List.sum_nil]
    exact ⟨fun h => h ▸ rfl, fun h => by cases a; cases d; subst h; rfl⟩
  | cons n ns ih =>
    rw [addMillis?, List.sum_cons]
    cases first : ofMillis? n with
    | none =>
      have large := ofNanos?_eq_none_iff.mp first
      exact iff_of_false (fun h => by cases h) (by omega)
    | some b =>
      have nanos : b.nanos = 1000000 * n := ofNanos?_eq_some_iff.mp first
      show (a.add? b).bind (·.addMillis? ns) = some d ↔ _
      cases second : a.add? b with
      | none =>
        have large := ofNanos?_eq_none_iff.mp second
        exact iff_of_false (fun h => by cases h) (by omega)
      | some c =>
        have sum : c.nanos = a.nanos + b.nanos := ofNanos?_eq_some_iff.mp second
        exact ih.trans (by omega)

theorem total?_eq_some_iff {d : Span} {ns : List Nat} :
    total? ns = some d ↔ d.nanos = 1000000 * ns.sum := by
  rw [total?, addMillis?_eq_some_iff]
  exact Iff.of_eq (congrArg _ (Nat.zero_add _))

end Span

namespace Settings

open Text

/-- Durations as a text can give them: a number of 64 bits, of seconds for the keep-alive interval
and of milliseconds for all others. -/
structure Wide (s : Settings) : Prop where
  keepAlive : ∃ seconds < UInt64.size, s.keepAliveInterval = 1000 * seconds
  answer : ∀ key, s.timeouts.answer key < UInt64.size
  socket : ∀ channel, (s.socket channel).timeout < UInt64.size
  grace : s.shutdownGrace < UInt64.size

theorem lt_of_readWide {cs : List Char} {n : Nat} (read : readWide cs = some n) :
    n < UInt64.size := by
  obtain ⟨-, small⟩ := Option.filter_eq_some_iff.mp read
  exact Nat.lt_succ_of_le (of_decide_eq_true small)

/-- What holds of the standard and of all that can be read holds of what is given. -/
theorem Given.of_read {α : Type} {reader : List Char → Option α} {standard : α} (g : Given)
    (key : Key) (P : α → Prop) (otherwise : P standard)
    (readable : ∀ cs a, reader cs = some a → P a) : P (g.read key reader standard) := by
  rw [read]
  cases here : (g key).bind reader with
  | none => exact otherwise
  | some a =>
    obtain ⟨cs, -, read⟩ := Option.bind_eq_some_iff.mp here
    exact readable cs a read

theorem wide_settings (g : Given) : g.settings.Wide := by
  have duration (key : Key) {n : Nat} (small : n < UInt64.size) :
      g.read key readWide n < UInt64.size :=
    g.of_read key (· < UInt64.size) small fun _ _ => lt_of_readWide
  refine ⟨?_, fun key => ?_, fun channel => ?_, duration .shutdownGrace (by decide)⟩
  · refine g.of_read .keepAliveInterval (fun n => ∃ seconds < UInt64.size, n = 1000 * seconds)
      ⟨60, by decide, rfl⟩ fun cs n read => ?_
    obtain ⟨seconds, given, rfl⟩ := Option.map_eq_some_iff.mp read
    exact ⟨seconds, lt_of_readWide given, rfl⟩
  · cases key <;> exact duration _ (by decide)
  · cases channel <;> exact duration .socketTimeout (by decide)

namespace Wide

variable {s : Settings} (wide : s.Wide)
include wide

theorem sum_durations_lt {wait : Wait} (other : wait ≠ .keepAlive) :
    (s.durations wait).sum < 2 * UInt64.size := by
  have grace := wide.grace
  cases wait with
  | keepAlive => exact absurd rfl other
  | answer key =>
    have := wide.answer key
    simp only [durations, List.sum_cons, List.sum_nil]
    omega
  | receiver channel =>
    have := wide.socket channel
    simp only [durations, List.sum_cons, List.sum_nil]
    omega
  | connection =>
    have control : s.control.timeout < UInt64.size := wide.socket .control
    have data : s.data.timeout < UInt64.size := wide.socket .data
    have routing : s.routing.timeout < UInt64.size := wide.socket .routing
    simp only [durations, slowest, List.sum_cons, List.sum_nil]
    omega
  | monitor =>
    have : s.timeouts.connectionState < UInt64.size := wide.answer .connectionState
    simp only [durations, List.sum_cons, List.sum_nil]
    omega
  | workers =>
    simp only [durations, List.sum_cons, List.sum_nil]
    omega

/-- No sum of durations is too large for a span. -/
theorem exists_span (wait : Wait) :
    ∃ span, s.span? wait = some span ∧ span.nanos = 1000000 * (s.durations wait).sum := by
  have small : 1000000 * (s.durations wait).sum < UInt64.size * 1000000000 := by
    by_cases here : wait = .keepAlive
    · obtain ⟨seconds, bound, interval⟩ := wide.keepAlive
      rw [here]
      simp only [durations, List.sum_cons, List.sum_nil]
      omega
    · have := wide.sum_durations_lt here
      omega
  exact ⟨⟨_, small⟩, Span.total?_eq_some_iff.mpr rfl, rfl⟩

theorem deadline?_eq_some_iff {now deadline : Moment} {wait : Wait} :
    s.deadline? now wait = some deadline ↔
      deadline.nanos = now.nanos + (1000000 * (s.durations wait).sum : Nat) := by
  obtain ⟨span, known, nanos⟩ := wide.exists_span wait
  rw [deadline?, known, Option.bind_some, Moment.after?_eq_some_iff, nanos]

theorem isSome_deadline?_iff {now : Moment} {wait : Wait} :
    (s.deadline? now wait).isSome ↔
      now.nanos + (1000000 * (s.durations wait).sum : Nat) < Moment.limit := by
  obtain ⟨span, known, nanos⟩ := wide.exists_span wait
  rw [deadline?, known, Option.bind_some, Moment.isSome_after?_iff, nanos]

end Wide

/-- With the settings of an accepted text every wait is a span of time, and in the first half of the
clock's time every wait but that for the next keep-alive request has its deadline. That one has its
deadline exactly if the interval is over before the clock ends. -/
theorem deadlines_of_ofProperties {text : String} {s : Settings}
    (accepted : ofProperties text = .ok s) :
    (∀ wait, ∃ span, s.span? wait = some span ∧
      span.nanos = 1000000 * (s.durations wait).sum) ∧
    ∀ now : Moment, 2 * now.nanos < Moment.limit →
      (∀ wait, wait ≠ .keepAlive → ∃ deadline, s.deadline? now wait = some deadline ∧
        deadline.nanos = now.nanos + (1000000 * (s.durations wait).sum : Nat)) ∧
      ((s.deadline? now .keepAlive).isSome ↔
        now.nanos + (1000000 * s.keepAliveInterval : Nat) < Moment.limit) := by
  obtain ⟨-, rfl, -⟩ := ofProperties_eq_ok_iff.mp accepted
  have wide := wide_settings (given (lines text))
  refine ⟨wide.exists_span, fun now early => ⟨fun wait other => ?_, wide.isSome_deadline?_iff⟩⟩
  have small := wide.sum_durations_lt other
  have before : now.nanos + (1000000 * ((given (lines text)).settings.durations wait).sum : Nat) <
      Moment.limit := by
    unfold Moment.limit UInt64.size at *
    omega
  obtain ⟨deadline, known⟩ := Option.isSome_iff_exists.mp (wide.isSome_deadline?_iff.mpr before)
  exact ⟨deadline, known, wide.deadline?_eq_some_iff.mp known⟩

/-- With the longest grace period and socket timeout that a text can give, closing a connection
ten seconds after the clock began has a deadline, and the keep-alive of the standard has one too. -/
theorem deadlines_of_ofProperties_longest :
    ∃ s deadline, ofProperties ("KNX_SHUTDOWN_GRACE_MS=18446744073709551615\n" ++
        "KNX_SOCKET_TIMEOUT_MS=18446744073709551615") = .ok s ∧
      s.deadline? ⟨10000000000, by decide, by decide⟩ .connection = some deadline ∧
      deadline.nanos = 36893488147419113230000000 ∧
      (s.deadline? ⟨10000000000, by decide, by decide⟩ .keepAlive).isSome := by
  have accepted : ofProperties ("KNX_SHUTDOWN_GRACE_MS=18446744073709551615\n" ++
      "KNX_SOCKET_TIMEOUT_MS=18446744073709551615") =
      .ok ({ standard with shutdownGrace := 18446744073709551615 }.withSocketTimeout
        18446744073709551615) := toOption_eq_some_iff.mp (by decide +kernel)
  obtain ⟨-, deadlines⟩ := deadlines_of_ofProperties accepted
  obtain ⟨others, keepAlive⟩ := deadlines ⟨10000000000, by decide, by decide⟩ (by decide)
  obtain ⟨deadline, known, nanos⟩ := others .connection (by decide)
  exact ⟨_, deadline, accepted, known, nanos, keepAlive.mpr (by decide)⟩

/-- A keep-alive interval of 2⁶⁴ - 1 seconds is accepted, and has no deadline at any time
after the clock began. -/
theorem keepAlive_without_deadline :
    ∃ s, ofProperties "KNX_CONNECTION_STATE_INTERVAL_S=18446744073709551615" = .ok s ∧
      s.keepAliveInterval = 18446744073709551615000 ∧
      ∀ now : Moment, 0 ≤ now.nanos → s.deadline? now .keepAlive = none := by
  have accepted : ofProperties "KNX_CONNECTION_STATE_INTERVAL_S=18446744073709551615" =
      .ok { standard with keepAliveInterval := 18446744073709551615000 } :=
    toOption_eq_some_iff.mp (by decide +kernel)
  refine ⟨_, accepted, rfl, fun now begun => ?_⟩
  obtain ⟨-, last, -⟩ := ofProperties_eq_ok_iff.mp accepted
  have wide := wide_settings (given (lines "KNX_CONNECTION_STATE_INTERVAL_S=18446744073709551615"))
  rw [← last] at wide
  rw [← Option.not_isSome_iff_eq_none, wide.isSome_deadline?_iff]
  simp only [durations, Moment.limit, List.sum_cons, List.sum_nil]
  omega

end Settings
end KnxIp
