/-
  Readers of bodies and frames.

  A frame is read up to the end of its datagram: the body is compared with what was left for it by
  the length that it would be written with.
-/
import KnxIp.Frame.Basic
import KnxIp.Reading.Blocks
import KnxIp.Reading.Telegram

namespace KnxIp

open Reading

namespace Body

/-- Reads a channel and the endpoint behind a reserved octet. -/
def readChannelRequest (bs : Bytes) : Reading (UInt8 × Endpoint) := do
  require bs 10
  let channel ← octet bs 0
  return (channel, ← Endpoint.read (← sliceFrom bs 2))

/-- Reads a channel and a status. -/
def readChannelResponse (bs : Bytes) : Reading (UInt8 × UInt8) := do
  require bs 2
  return (← octet bs 0, ← octet bs 1)

/-- Reads a connect request. -/
def readConnectRequest (bs : Bytes) : Reading Body := do
  require bs 20
  let control ← Endpoint.read bs
  let data ← Endpoint.read (← sliceFrom bs 8)
  let kind ← ConnectionKind.read (← sliceFrom bs 16)
  return connectRequest control data kind

/-- Reads the assigned address at the end of a connect response, if there are octets left. -/
def readAssigned (bs : Bytes) : Reading (Option AssignedAddress) :=
  if 10 < bs.length then do
    let assigned ← AssignedAddress.read (← sliceFrom bs 10)
    return some assigned
  else return none

/-- Reads a connect response. -/
def readConnectResponse (bs : Bytes) : Reading Body := do
  require bs 2
  let channel ← octet bs 0
  let status ← octet bs 1
  if 2 < bs.length then
    let data ← Endpoint.read (← sliceFrom bs 2)
    return connectResponse channel status (some data) (← readAssigned bs)
  else return connectResponse channel status none none

/-- Reads a notice of lost telegrams. -/
def readRoutingLostMessage (bs : Bytes) : Reading Body := do
  require bs 4
  refuse ((← octet bs 0) ≠ 4) (.framing .invalidStructure)
  return routingLostMessage (← octet bs 1) (word (← octet bs 2) (← octet bs 3))

/-- Reads a request for a pause. -/
def readRoutingBusy (bs : Bytes) : Reading Body := do
  require bs 6
  refuse ((← octet bs 0) ≠ 6) (.framing .invalidStructure)
  let state ← octet bs 1
  return routingBusy state (word (← octet bs 2) (← octet bs 3))
    (word (← octet bs 4) (← octet bs 5))

/-- Reads the body of a service type, a description in no more rounds than these. -/
def read (rounds : Nat) (service : Service) (bs : Bytes) : Reading Body :=
  match service with
  | .searchRequest => return searchRequest (← Endpoint.read bs)
  | .searchResponse => do
    let endpoint ← Endpoint.read bs
    return searchResponse endpoint (← Description.read rounds (← sliceFrom bs 8))
  | .descriptionRequest => return descriptionRequest (← Endpoint.read bs)
  | .descriptionResponse => return descriptionResponse (← Description.read rounds bs)
  | .connectRequest => readConnectRequest bs
  | .connectResponse => readConnectResponse bs
  | .connectionStateRequest => do
    let (channel, endpoint) ← readChannelRequest bs
    return connectionStateRequest channel endpoint
  | .connectionStateResponse => do
    let (channel, status) ← readChannelResponse bs
    return connectionStateResponse channel status
  | .disconnectRequest => do
    let (channel, endpoint) ← readChannelRequest bs
    return disconnectRequest channel endpoint
  | .disconnectResponse => do
    let (channel, status) ← readChannelResponse bs
    return disconnectResponse channel status
  | .tunnelingRequest => do
    let header ← TunnelHeader.read bs
    return tunnelingRequest header (← Telegram.read (← sliceFrom bs 4))
  | .tunnelingAck => return tunnelingAck (← TunnelHeader.read bs)
  | .routingIndication => return routingIndication (← Telegram.read bs)
  | .routingLostMessage => readRoutingLostMessage bs
  | .routingBusy => readRoutingBusy bs

end Body

/-! ## The length that a body would be written with -/

namespace Telegram.Content

/-- Finds out whether the value stands in the application octet: it does if the service carries a
value, which is a single octet below 64. -/
def readInline (c : Content) : Reading Bool :=
  if c.apci.any Apci.carriesValue ∧ c.data.val.length = 1 then
    return decide ((← octet c.data.val 0) < 64)
  else return false

/-- Finds out how many octets the telegram takes. -/
def readLength (c : Content) : Reading Nat := do
  let length := 10 + c.info.val.length
  match c.apci with
  | none => return length
  | some _ =>
    if (← c.readInline) then return length + 1
    else return length + (1 + c.data.val.length).toUInt8.toNat

end Telegram.Content

/-- Finds out how many octets a body takes. -/
def Body.readLength : Body → Reading Nat
  | tunnelingRequest _ t => return 4 + (← t.readLength)
  | routingIndication t => t.readLength
  | b => return b.encodedLength

/-! ## Frames -/

/-- Reads a datagram, a description in no more rounds than these. -/
def Frame.read (rounds : Nat) (bs : Bytes) : Reading Frame := do
  let header ← Header.read bs
  refuse (header.totalLength.toNat ≠ bs.length) (.framing .lengthMismatch)
  let rest ← sliceFrom bs Header.size
  let body ← Body.read rounds header.service rest
  refuse ((← body.readLength) ≠ rest.length) (.framing .lengthMismatch)
  return ⟨header, body⟩

end KnxIp
