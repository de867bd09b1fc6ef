/-
  Journals: what has happened, in the order in which it happened.

  An entry is made for each datagram that is handed over to the network, whether or not the
  network takes it, for each datagram that a socket receives, and for each phase that the session
  enters. Nothing is ever taken out of a journal. What is asked of a run is read off the journal
  that it has left.
-/
import KnxIp.Channel.Dispatch
import KnxIp.Session.Phase

namespace KnxIp

/-- The body of the frame in a datagram, if there is one. -/
def Frame.bodyIn? (bytes : Bytes) : Option Body := (Frame.decode bytes).toOption.map (·.body)

/-- The body of the frame in a datagram, if there is one. -/
def Datagram.body? (d : Datagram) : Option Body := Frame.bodyIn? d.bytes

/-- The service type in the header of a datagram. -/
def Datagram.service? (d : Datagram) : Option Service :=
  (Header.parse d.bytes).toOption.map (·.service)

/-- Who hands a datagram over: the one who calls, or a socket in reply to what it received. -/
inductive Sender
  | caller
  | receiver
deriving DecidableEq, Repr

/-- A datagram handed over to the network, with the local endpoint of its socket. -/
structure Attempt where
  sender : Sender
  socket : Endpoint
  datagram : Datagram
  /-- The network did not take it. -/
  refused : Bool
deriving DecidableEq, Repr

/-- A datagram that a socket of a role has received at a local endpoint. -/
structure Receipt where
  role : Role
  socket : Endpoint
  source : Endpoint
  bytes : Bytes
deriving DecidableEq, Repr

/-- An entry of a journal. -/
inductive Happening
  /-- A datagram was handed over to the network. -/
  | handed (attempt : Attempt)
  /-- A datagram was received. -/
  | received (receipt : Receipt)
  /-- The session has entered a phase. -/
  | entered (phase : SessionPhase)
deriving DecidableEq, Repr

namespace Happening

/-- The datagram that was handed over. -/
def attempt? : Happening → Option Attempt
  | handed a => some a
  | _ => none

/-- The datagram that was received. -/
def receipt? : Happening → Option Receipt
  | received r => some r
  | _ => none

/-- The phase that was entered. -/
def phase? : Happening → Option SessionPhase
  | entered p => some p
  | _ => none

end Happening

/-! ## Reading a journal -/

/-- The channel that a body asks to close. -/
def Body.disconnect? : Body → Option UInt8
  | .disconnectRequest id _ => some id
  | _ => none

/-- The telegram in a body that may come from the bus. -/
def Body.telegram? : Body → Option Telegram
  | .tunnelingRequest _ t | .routingIndication t => some t
  | _ => none

/-- The channel that a datagram of the peer asks to close, received by a control socket. -/
def Receipt.disconnect? (r : Receipt) : Option UInt8 :=
  if r.role.accepts .control then (Frame.bodyIn? r.bytes).bind Body.disconnect? else none

namespace Happening

/-- The channel of the disconnect request that was handed over. -/
def disconnect? : Happening → Option UInt8
  | .handed a => a.datagram.body?.bind Body.disconnect?
  | _ => none

/-- The channel of the disconnect request that was received. -/
def peerDisconnect? : Happening → Option UInt8
  | .received r => r.disconnect?
  | _ => none

/-- The tunneling request that was handed over. -/
def tunneled? : Happening → Option Attempt
  | .handed a => if a.datagram.service? = some .tunnelingRequest then some a else none
  | _ => none

/-- The telegram in a datagram that was received. -/
def telegram? : Happening → Option Telegram
  | .received r => (Frame.bodyIn? r.bytes).bind Body.telegram?
  | _ => none

end Happening

namespace Journal

/-- The phases entered. -/
def phases (journal : List Happening) : List SessionPhase := journal.filterMap Happening.phase?

/-- The channels of the disconnect requests handed over. -/
def disconnects (journal : List Happening) : List UInt8 :=
  journal.filterMap Happening.disconnect?

/-- The channels of the disconnect requests of the peer. -/
def peerDisconnects (journal : List Happening) : List UInt8 :=
  journal.filterMap Happening.peerDisconnect?

/-- The tunneling requests handed over. -/
def tunneled (journal : List Happening) : List Attempt := journal.filterMap Happening.tunneled?

/-- The datagrams received. -/
def received (journal : List Happening) : List Receipt := journal.filterMap Happening.receipt?

/-- The telegrams that were received. -/
def telegrams (journal : List Happening) : List Telegram :=
  journal.filterMap Happening.telegram?

/-- The network has taken something from a caller. -/
def Out (journal : List Happening) : Prop :=
  ∃ a, Happening.handed a ∈ journal ∧ a.sender = .caller ∧ a.refused = false

end Journal
end KnxIp
