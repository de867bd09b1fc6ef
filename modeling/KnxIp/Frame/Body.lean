/-
  Frame bodies: what follows the header, one form for each service type.

  Reading a body tolerates octets behind a body of fixed size; telegrams and descriptions take
  all that is left. `encodedLength` is the length of what `encode` writes.
-/
import KnxIp.Description.Basic
import KnxIp.Frame.Connection
import KnxIp.Frame.Header
import KnxIp.Telegram.Codec

namespace KnxIp

/-- The bodies of frames. -/
inductive Body
  /-- Who is there? Answers go to the endpoint. -/
  | searchRequest (endpoint : Endpoint)
  /-- A device, with its control endpoint. -/
  | searchResponse (endpoint : Endpoint) (description : Description)
  /-- What can you do? Answers go to the endpoint. -/
  | descriptionRequest (endpoint : Endpoint)
  /-- A device describes itself. -/
  | descriptionResponse (description : Description)
  /-- Asks for a connection between these endpoints of the client and the gateway. -/
  | connectRequest (control data : Endpoint) (kind : ConnectionKind)
  /-- The answer: a channel if the status is good; a refusal may end after the status. -/
  | connectResponse (channel status : UInt8) (data : Option Endpoint)
      (assigned : Option AssignedAddress)
  /-- Is the channel still alive? -/
  | connectionStateRequest (channel : UInt8) (endpoint : Endpoint)
  /-- The state of the channel. -/
  | connectionStateResponse (channel status : UInt8)
  /-- Closes the channel. -/
  | disconnectRequest (channel : UInt8) (endpoint : Endpoint)
  /-- The channel is closed. -/
  | disconnectResponse (channel status : UInt8)
  /-- A telegram through the tunnel. -/
  | tunnelingRequest (header : TunnelHeader) (telegram : Telegram)
  /-- Acknowledges a tunneled telegram. -/
  | tunnelingAck (header : TunnelHeader)
  /-- A telegram to all routers. -/
  | routingIndication (telegram : Telegram)
  /-- A router had to drop telegrams. -/
  | routingLostMessage (state : UInt8) (lost : UInt16)
  /-- A router asks for a pause, in milliseconds. -/
  | routingBusy (state : UInt8) (wait control : UInt16)
deriving DecidableEq

namespace Body

/-- The service type of a body. -/
def service : Body → Service
  | searchRequest _ => .searchRequest
  | searchResponse _ _ => .searchResponse
  | descriptionRequest _ => .descriptionRequest
  | descriptionResponse _ => .descriptionResponse
  | connectRequest _ _ _ => .connectRequest
  | connectResponse _ _ _ _ => .connectResponse
  | connectionStateRequest _ _ => .connectionStateRequest
  | connectionStateResponse _ _ => .connectionStateResponse
  | disconnectRequest _ _ => .disconnectRequest
  | disconnectResponse _ _ => .disconnectResponse
  | tunnelingRequest _ _ => .tunnelingRequest
  | tunnelingAck _ => .tunnelingAck
  | routingIndication _ => .routingIndication
  | routingLostMessage _ _ => .routingLostMessage
  | routingBusy _ _ _ => .routingBusy

/-- The channel identifier in a body. -/
def channelId : Body → Option UInt8
  | connectResponse c _ _ _ | connectionStateRequest c _ | connectionStateResponse c _
  | disconnectRequest c _ | disconnectResponse c _ => some c
  | tunnelingRequest h _ | tunnelingAck h => some h.channel
  | _ => none

/-- The sequence number in a body. -/
def sequence : Body → Option UInt8
  | tunnelingRequest h _ | tunnelingAck h => some h.sequence
  | _ => none

/-- The status in a response. -/
def status : Body → Option UInt8
  | connectResponse _ s _ _ | connectionStateResponse _ s | disconnectResponse _ s => some s
  | tunnelingAck h => some h.status
  | _ => none

/-- A response whose status is good. -/
def isOk (b : Body) : Bool := b.status = some statusOk

/-- The answer to a connect request that was accepted. -/
def accepted (channel : UInt8) (data : Endpoint) (address : IndividualAddress) : Body :=
  connectResponse channel statusOk (some data) (some (.tunnel address))

/-- The answer to a connect request that was refused. -/
def rejected (status : UInt8) : Body := connectResponse 0 status none none

/-- How many octets a body takes. An assigned address without a data endpoint is not written. -/
def encodedLength : Body → Nat
  | searchRequest _ | descriptionRequest _ => 8
  | searchResponse _ d => 8 + d.encodedLength
  | descriptionResponse d => d.encodedLength
  | connectRequest _ _ _ => 20
  | connectResponse _ _ none _ => 2
  | connectResponse _ _ (some _) none => 10
  | connectResponse _ _ (some _) (some _) => 14
  | connectionStateRequest _ _ | disconnectRequest _ _ => 10
  | connectionStateResponse _ _ | disconnectResponse _ _ => 2
  | tunnelingRequest _ t => 4 + t.encodedLength
  | tunnelingAck _ => 4
  | routingIndication t => t.encodedLength
  | routingLostMessage _ _ => 4
  | routingBusy _ _ _ => 6

/-- The octets `bs` if there is room for them. -/
def fit (bs : Bytes) (room : Nat) : Except FramingFault Bytes :=
  if room < bs.length then .error .bufferTooSmall else .ok bs

/-- The body in at most `room` octets. -/
def encode (b : Body) (room : Nat) : Except FramingFault Bytes :=
  match b with
  | searchRequest e | descriptionRequest e => e.encode room
  | searchResponse e d => do
    let front ← e.encode room
    return front ++ (← d.encode (room - front.length))
  | descriptionResponse d => d.encode room
  | connectRequest c d k => fit (c.bytes ++ d.bytes ++ k.bytes) room
  | connectResponse c s none _ => fit [c, s] room
  | connectResponse c s (some d) none => fit ([c, s] ++ d.bytes) room
  | connectResponse c s (some d) (some a) => fit ([c, s] ++ d.bytes ++ a.bytes) room
  | connectionStateRequest c e | disconnectRequest c e => fit ([c, 0] ++ e.bytes) room
  | connectionStateResponse c s | disconnectResponse c s => fit [c, s] room
  | tunnelingRequest h t => do
    let front ← h.encode room
    return front ++ (← t.encode (room - front.length))
  | tunnelingAck h => h.encode room
  | routingIndication t => t.encode room
  | routingLostMessage s lost => fit ([4, s] ++ wordBytes lost) room
  | routingBusy s wait control => fit ([6, s] ++ wordBytes wait ++ wordBytes control) room

/-- Reads a channel and the endpoint behind a reserved octet. -/
def parseChannelRequest : Bytes → Except FramingFault (UInt8 × Endpoint)
  | channel :: _ :: rest => (Endpoint.parse rest).map fun e => (channel, e)
  | _ => .error .bufferTooSmall

/-- Reads a channel and a status. -/
def parseChannelResponse : Bytes → Except FramingFault (UInt8 × UInt8)
  | channel :: status :: _ => .ok (channel, status)
  | _ => .error .bufferTooSmall

/-- Reads a connect request, which needs all its 20 octets. -/
def parseConnectRequest (bs : Bytes) : Except FramingFault Body :=
  if bs.length < 20 then .error .bufferTooSmall
  else do
    let control ← Endpoint.parse bs
    let data ← Endpoint.parse (bs.drop 8)
    let kind ← ConnectionKind.parse (bs.drop 16)
    return connectRequest control data kind

/-- Reads a connect response: what follows the status is the data endpoint, and what follows that
the assigned address. -/
def parseConnectResponse : Bytes → Except FramingFault Body
  | channel :: status :: [] => .ok (connectResponse channel status none none)
  | channel :: status :: rest => do
    let data ← Endpoint.parse rest
    if rest.length ≤ 8 then return connectResponse channel status (some data) none
    else
      let assigned ← AssignedAddress.parse (rest.drop 8)
      return connectResponse channel status (some data) (some assigned)
  | _ => .error .bufferTooSmall

/-- Reads a notice of lost telegrams. -/
def parseRoutingLostMessage : Bytes → Except FramingFault Body
  | length :: state :: l1 :: l0 :: _ =>
    if length ≠ 4 then .error .invalidStructure else .ok (routingLostMessage state (word l1 l0))
  | _ => .error .bufferTooSmall

/-- Reads a request for a pause. -/
def parseRoutingBusy : Bytes → Except FramingFault Body
  | length :: state :: w1 :: w0 :: c1 :: c0 :: _ =>
    if length ≠ 6 then .error .invalidStructure
    else .ok (routingBusy state (word w1 w0) (word c1 c0))
  | _ => .error .bufferTooSmall

/-- A framing fault as a fault. -/
def framed {α : Type} (r : Except FramingFault α) : Except Fault α := r.mapError .framing

/-- Reads the body of a service type. -/
def parse (service : Service) (bs : Bytes) : Except Fault Body :=
  match service with
  | .searchRequest => framed ((Endpoint.parse bs).map searchRequest)
  | .searchResponse => framed do
    let endpoint ← Endpoint.parse bs
    return searchResponse endpoint (← Description.parse (bs.drop 8))
  | .descriptionRequest => framed ((Endpoint.parse bs).map descriptionRequest)
  | .descriptionResponse => framed ((Description.parse bs).map descriptionResponse)
  | .connectRequest => framed (parseConnectRequest bs)
  | .connectResponse => framed (parseConnectResponse bs)
  | .connectionStateRequest =>
    framed ((parseChannelRequest bs).map fun (c, e) => connectionStateRequest c e)
  | .connectionStateResponse =>
    framed ((parseChannelResponse bs).map fun (c, s) => connectionStateResponse c s)
  | .disconnectRequest =>
    framed ((parseChannelRequest bs).map fun (c, e) => disconnectRequest c e)
  | .disconnectResponse =>
    framed ((parseChannelResponse bs).map fun (c, s) => disconnectResponse c s)
  | .tunnelingRequest => do
    let header ← framed (TunnelHeader.parse bs)
    return tunnelingRequest header (← Telegram.parse (bs.drop 4))
  | .tunnelingAck => framed ((TunnelHeader.parse bs).map tunnelingAck)
  | .routingIndication => (Telegram.parse bs).map routingIndication
  | .routingLostMessage => framed (parseRoutingLostMessage bs)
  | .routingBusy => framed (parseRoutingBusy bs)

end Body
end KnxIp
