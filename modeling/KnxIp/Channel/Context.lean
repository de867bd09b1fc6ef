/-
  What all channels of one client share: the exchanges, the known values, the counters, the state
  of the connection, and the observers.
-/
import KnxIp.Correlation
import KnxIp.Observer
import KnxIp.Statistics
import KnxIp.StatusPool

namespace KnxIp

open Text

/-- The state of the connection to a gateway, as the receiving side sees it. -/
structure Connection where
  /-- The channel that the gateway opened. -/
  channelId : Option UInt8
  /-- The sequence number of the last tunneled telegram. -/
  lastSequence : Option UInt8
  /-- Who wants to be told when the connection is to be closed. -/
  listener : Option String
  /-- Who has been told, in order. -/
  told : List String
deriving DecidableEq, Repr

namespace Connection

/-- No connection, and nobody to tell. -/
def none : Connection := ⟨.none, .none, .none, []⟩

/-- Notes the sequence number of a tunneled telegram; it is a new one unless it repeats that of
the telegram before. -/
def accept (c : Connection) (sequence : UInt8) : Bool × Connection :=
  (c.lastSequence ≠ some sequence, { c with lastSequence := some sequence })

/-- Tells the listener, if there is one, that the connection is to be closed. -/
def requestClose (c : Connection) : Connection :=
  match c.listener with
  | some name => { c with told := c.told ++ [name] }
  | .none => c

/-- The state in one line. A missing sequence number is written as -1. -/
def text (c : Connection) : String :=
  "SessionState \x7b channel_id: " ++
    (match c.channelId with
      | some id => "Some(" ++ decimal id.toNat ++ ")"
      | .none => "None") ++
    ", last_inbound_sequence: " ++
    (match c.lastSequence with
      | some n => decimal n.toNat
      | .none => "-1") ++
    ", .. \x7d"

end Connection

/-- What the channels of one client share. -/
structure Context where
  correlator : Correlator
  status : StatusPool
  statistics : Statistics
  connection : Connection
  observers : Observers

namespace Context

/-- A new context with these observers. -/
def new (observers : Observers) : Context where
  correlator := .empty
  status := .empty
  statistics := .zero
  connection := .none
  observers

/-- Queues an event for the observers. -/
def notify (c : Context) (e : Event) : Context := { c with observers := c.observers.notify e }

/-- Counts a failure in the background and tells the observers. -/
def report (c : Context) (f : Failure) : Context :=
  { c with statistics := c.statistics.failed }.notify (.error f)

/-- Counts a received frame of `size` octets and tells the observers. -/
def received (c : Context) (f : Frame) (size : Nat) : Context :=
  { c with statistics := c.statistics.received f.header.service size }.notify (.incoming f)

/-- Counts a sent frame of `size` octets and tells the observers. -/
def sent (c : Context) (f : Frame) (size : Nat) : Context :=
  { c with statistics := c.statistics.sent f.header.service size }.notify (.outgoing f)

/-- The context with another state of the connection. -/
def withConnection (c : Context) (f : Connection → Connection) : Context :=
  { c with connection := f c.connection }

/-- Asks for the connection to be closed. -/
def requestClose (c : Context) : Context := c.withConnection (·.requestClose)

/-- Notes the value in a telegram, unless it confirms that the bus did not take it. -/
def noteValue (c : Context) (t : Telegram) : Context :=
  if t.messageCode = .confirmation ∧ t.control1.hasError then c
  else { c with status := c.status.updateFrom t }

end Context
end KnxIp
