/-
  What a client waits for, and until when.

  Every wait ends at a deadline at the latest. The deadlines come from the settings: some durations
  are added up, and their sum to the moment at which the wait begins. A background activity that is
  to end may be in the middle of something, so closing waits for it as long as that may take and for
  the grace period besides.
-/
import KnxIp.Clock
import KnxIp.Correlation
import KnxIp.Settings.Basic

namespace KnxIp

/-- What a client waits for. -/
inductive Wait
  /-- The time for the next keep-alive request. -/
  | keepAlive
  /-- The answer to a request. -/
  | answer (key : ExchangeKey)
  /-- The end of the receiver on a channel. -/
  | receiver (channel : Channel)
  /-- The end of a receiver of the connection; as long as the slowest of them needs. -/
  | connection
  /-- The end of the keep-alive, which may wait for an answer. -/
  | monitor
  /-- The end of the workers that hand events to observers. -/
  | workers
deriving DecidableEq, Repr

/-- How long to wait for the answer in an exchange. -/
def Timeouts.answer (t : Timeouts) : ExchangeKey → Nat
  | .search => t.search
  | .description => t.description
  | .connect => t.connect
  | .connectionState => t.connectionState
  | .disconnect => t.disconnect
  | .tunneling _ => t.tunneling

namespace Settings

/-- How long one attempt to receive may take on a channel of a connection. -/
def slowest (s : Settings) : Nat := max (max s.control.timeout s.data.timeout) s.routing.timeout

/-- The durations whose sum a wait may take, in milliseconds. -/
def durations (s : Settings) : Wait → List Nat
  | .keepAlive => [s.keepAliveInterval]
  | .answer key => [s.timeouts.answer key]
  | .receiver channel => [s.shutdownGrace, (s.socket channel).timeout]
  | .connection => [s.shutdownGrace, s.slowest]
  | .monitor => [s.shutdownGrace, s.timeouts.connectionState]
  | .workers => [s.shutdownGrace]

/-- How long a wait may take, if that can be said. -/
def span? (s : Settings) (wait : Wait) : Option Span := Span.total? (s.durations wait)

/-- When a wait ends at the latest that begins now, if that can be said. -/
def deadline? (s : Settings) (now : Moment) (wait : Wait) : Option Moment :=
  (s.span? wait).bind now.after?

end Settings
end KnxIp
