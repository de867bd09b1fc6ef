/-
  Roles of channels: which frames a socket sends, and what it does with those it receives.
-/
import KnxIp.Service

namespace KnxIp

/-- What a socket is used for. -/
inductive Role
  | discovery
  | description
  | control
  | data
  /-- Control and data through one socket. -/
  | shared
  | routing
deriving DecidableEq, Repr

/-- What is done with a received frame. -/
inductive Handling
  /-- The response is noted under its exchange. -/
  | record
  /-- The peer is told that the channel is alive. -/
  | confirmState
  /-- The peer closes the channel: it is answered, and the connection ends. -/
  | endConnection
  /-- The telegram is acknowledged, and its value noted unless it is a repetition. -/
  | acceptTelegram
  /-- The value of the telegram is noted. -/
  | noteValue
  /-- A notice with no effect. -/
  | ignore
deriving DecidableEq, Repr

namespace Role

/-- Every role. -/
def all : List Role := [discovery, description, control, data, shared, routing]

/-- The name of a role. -/
def name : Role → String
  | discovery => "discovery"
  | description => "description"
  | control => "control"
  | data => "data"
  | shared => "nat"
  | routing => "routing"

/-- Whether frames of a channel are sent through a socket of this role. -/
def accepts : Role → Channel → Bool
  | discovery, .discovery => true
  | description, .description => true
  | control, .control | shared, .control => true
  | data, .data | shared, .data => true
  | routing, .routing => true
  | _, _ => false

/-- What a control socket does with a frame. -/
def controlHandling : Service → Option Handling
  | .connectResponse | .connectionStateResponse | .disconnectResponse => some .record
  | .connectionStateRequest => some .confirmState
  | .disconnectRequest => some .endConnection
  | _ => none

/-- What a data socket does with a frame. -/
def dataHandling : Service → Option Handling
  | .tunnelingRequest => some .acceptTelegram
  | .tunnelingAck => some .record
  | _ => none

/-- What a socket of a role does with a frame of a service type; other frames are dropped. -/
def handling : Role → Service → Option Handling
  | discovery, .searchResponse => some .record
  | description, .descriptionResponse => some .record
  | control, s => controlHandling s
  | data, s => dataHandling s
  | shared, s => (controlHandling s).or (dataHandling s)
  | routing, .routingIndication => some .noteValue
  | routing, .routingLostMessage | routing, .routingBusy => some .ignore
  | _, _ => none

/-- The service types that a role handles, ascending by code. -/
def handled (r : Role) : List Service := Service.all.filter fun s => (r.handling s).isSome

end Role
end KnxIp
