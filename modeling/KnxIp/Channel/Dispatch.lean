/-
  Dispatch: what happens to one received datagram.

  It is read, counted and shown to the observers; a frame with the identifier of another channel
  is refused; then the role of the socket decides (`Role.handling`). At most one datagram is sent
  in reply, so the answer of the transport to it is given beforehand, as `refusal`: the reason why
  a datagram cannot be sent, if there is one.
-/
import KnxIp.Channel.Context
import KnxIp.Channel.Role

namespace KnxIp

/-- The peers of a socket: where frames go. -/
structure Peers where
  /-- The default. -/
  main : Endpoint
  /-- For frames of the data channel, once the gateway has announced it. -/
  data : Option Endpoint
deriving DecidableEq, Repr

/-- Where frames of a channel go. -/
def Peers.ofChannel (p : Peers) (channel : Channel) : Endpoint :=
  if channel = .data then p.data.getD p.main else p.main

/-- A body may be handled if it has no channel identifier, or the expected one. A connect response
is exempt, because it is what assigns the identifier. -/
def verifyChannel (expected : Option UInt8) (b : Body) : Except Failure Unit :=
  if b.service = .connectResponse then .ok ()
  else match b.channelId with
    | none => .ok ()
    | some id => if some id = expected then .ok () else .error (.connection (.wrongChannelId b))

/-- A datagram on its way out. -/
structure Datagram where
  bytes : Bytes
  destination : Endpoint
deriving DecidableEq, Repr

/-- What handling a datagram led to: the context afterwards, and the datagram that was handed to
the transport, whether or not it took it. -/
structure Handled where
  context : Context
  reply : Option Datagram

/-- Why the transport does not take a datagram; nothing if it does. -/
abbrev Refusal := Datagram → Option TransportFault

/-- Sends a body in reply. It is counted and shown to the observers once the transport has taken
it. -/
def Context.reply (c : Context) (refusal : Refusal) (b : Body) (destination : Endpoint) :
    Except Failure Unit × Handled :=
  let frame := Frame.ofBody b
  match frame.bytes with
  | .error f => (.error (.ofFraming f), ⟨c, none⟩)
  | .ok bytes =>
    let datagram : Datagram := ⟨bytes, destination⟩
    match refusal datagram with
    | some fault => (.error (.transport fault), ⟨c, some datagram⟩)
    | none => (.ok (), ⟨c.sent frame bytes.length, some datagram⟩)

/-- Carries out what the role of the socket asks for. `source` is where the frame came from. -/
def Context.handle (c : Context) (peers : Peers) (refusal : Refusal) (source : Endpoint) :
    Handling → Body → Except Failure Unit × Handled
  | .record, b => (.ok (), ⟨{ c with correlator := c.correlator.record b }, none⟩)
  | .confirmState, .connectionStateRequest id endpoint =>
    c.reply refusal (.connectionStateResponse id statusOk) (endpoint.replyTo source)
  | .endConnection, .disconnectRequest id endpoint =>
    let c := { c with correlator := c.correlator.registerInbound (.disconnectRequest id endpoint) }
    let (result, h) := c.reply refusal (.disconnectResponse id statusOk) (endpoint.replyTo source)
    (result, { h with context := h.context.requestClose })
  | .acceptTelegram, .tunnelingRequest header telegram =>
    let ack : Body := .tunnelingAck ⟨header.channel, header.sequence, statusOk⟩
    match c.reply refusal ack (peers.ofChannel .data) with
    | (.error f, h) => (.error f, h)
    | (.ok (), h) =>
      let (isNew, connection) := h.context.connection.accept header.sequence
      let c := { h.context with connection }
      (.ok (), { h with context := if isNew then c.noteValue telegram else c })
  | .noteValue, .routingIndication telegram => (.ok (), ⟨c.noteValue telegram, none⟩)
  | _, _ => (.ok (), ⟨c, none⟩)

/-- Handles a frame that has been read and counted. -/
def Context.handleFrame (c : Context) (role : Role) (peers : Peers) (refusal : Refusal)
    (source : Endpoint) (b : Body) : Handled :=
  match verifyChannel c.connection.channelId b with
  | .error f => ⟨c.report f, none⟩
  | .ok () =>
    match role.handling b.service with
    | none => ⟨c, none⟩
    | some handling =>
      match c.handle peers refusal source handling b with
      | (.ok (), h) => h
      | (.error f, h) => { h with context := h.context.report f }

/-- Handles a received datagram. -/
def Context.dispatch (c : Context) (role : Role) (peers : Peers) (refusal : Refusal)
    (source : Endpoint) (bytes : Bytes) : Handled :=
  match Frame.decode bytes with
  | .error f => ⟨c.report (.fault f), none⟩
  | .ok frame => (c.received frame bytes.length).handleFrame role peers refusal source frame.body

end KnxIp
