/-
  Service types: the kinds of frame, the channel each travels on and the answer each asks for.

  Also the tables of the standard that go with them: service families, status codes, the
  multicast address and the size limits.
-/

namespace KnxIp

/-- The service types, in ascending order of their codes. -/
inductive Service
  | searchRequest
  | searchResponse
  | descriptionRequest
  | descriptionResponse
  | connectRequest
  | connectResponse
  | connectionStateRequest
  | connectionStateResponse
  | disconnectRequest
  | disconnectResponse
  | tunnelingRequest
  | tunnelingAck
  | routingIndication
  | routingLostMessage
  | routingBusy
deriving DecidableEq, Repr

/-- The channels on which frames travel. -/
inductive Channel
  | discovery
  | description
  | control
  | data
  | routing
deriving DecidableEq, Repr

/-- The name of a channel. -/
def Channel.name : Channel → String
  | discovery => "Discovery"
  | description => "Description"
  | control => "Control"
  | data => "Data"
  | routing => "Routing"

/-- The channels. -/
def Channel.all : List Channel := [.discovery, .description, .control, .data, .routing]

namespace Service

/-- Every service type, ascending by code. -/
def all : List Service :=
  [searchRequest, searchResponse, descriptionRequest, descriptionResponse, connectRequest,
   connectResponse, connectionStateRequest, connectionStateResponse, disconnectRequest,
   disconnectResponse, tunnelingRequest, tunnelingAck, routingIndication, routingLostMessage,
   routingBusy]

/-- The code in the frame header. -/
def code : Service → UInt16
  | searchRequest => 0x0201
  | searchResponse => 0x0202
  | descriptionRequest => 0x0203
  | descriptionResponse => 0x0204
  | connectRequest => 0x0205
  | connectResponse => 0x0206
  | connectionStateRequest => 0x0207
  | connectionStateResponse => 0x0208
  | disconnectRequest => 0x0209
  | disconnectResponse => 0x020A
  | tunnelingRequest => 0x0420
  | tunnelingAck => 0x0421
  | routingIndication => 0x0530
  | routingLostMessage => 0x0531
  | routingBusy => 0x0532

/-- The service type with a code. -/
def ofCode (code : UInt16) : Option Service := all.find? (·.code = code)

theorem ofCode_code (s : Service) : ofCode s.code = some s := by cases s <;> decide

/-- The name of a service type. -/
def name : Service → String
  | searchRequest => "SearchRequest"
  | searchResponse => "SearchResponse"
  | descriptionRequest => "DescriptionRequest"
  | descriptionResponse => "DescriptionResponse"
  | connectRequest => "ConnectRequest"
  | connectResponse => "ConnectResponse"
  | connectionStateRequest => "ConnectionStateRequest"
  | connectionStateResponse => "ConnectionStateResponse"
  | disconnectRequest => "DisconnectRequest"
  | disconnectResponse => "DisconnectResponse"
  | tunnelingRequest => "TunnelingRequest"
  | tunnelingAck => "TunnelingAck"
  | routingIndication => "RoutingIndication"
  | routingLostMessage => "RoutingLostMessage"
  | routingBusy => "RoutingBusy"

/-- The channel on which frames of a service type travel. -/
def channel : Service → Channel
  | searchRequest | searchResponse => .discovery
  | descriptionRequest | descriptionResponse => .description
  | connectRequest | connectResponse | connectionStateRequest | connectionStateResponse
  | disconnectRequest | disconnectResponse => .control
  | tunnelingRequest | tunnelingAck => .data
  | routingIndication | routingLostMessage | routingBusy => .routing

/-- The service type that answers a request. -/
def response : Service → Option Service
  | searchRequest => some searchResponse
  | descriptionRequest => some descriptionResponse
  | connectRequest => some connectResponse
  | connectionStateRequest => some connectionStateResponse
  | disconnectRequest => some disconnectResponse
  | tunnelingRequest => some tunnelingAck
  | _ => none

/-- The code of the service family: the high octet of the service code. -/
def familyCode (s : Service) : UInt8 := (s.code / 256).toUInt8

end Service

/-- The service families that a device may advertise. -/
inductive Family
  | core
  | deviceManagement
  | tunneling
  | routing
  | remoteLogging
  | remoteConfiguration
  | objectServer
deriving DecidableEq, Repr

namespace Family

/-- Every family, ascending by code. -/
def all : List Family :=
  [core, deviceManagement, tunneling, routing, remoteLogging, remoteConfiguration, objectServer]

/-- The code of a family. -/
def code : Family → UInt8
  | core => 2
  | deviceManagement => 3
  | tunneling => 4
  | routing => 5
  | remoteLogging => 6
  | remoteConfiguration => 7
  | objectServer => 8

/-- The family with a code. -/
def ofCode (code : UInt8) : Option Family := all.find? (·.code = code)

/-- The name of a family. -/
def name : Family → String
  | core => "Core"
  | deviceManagement => "DeviceManagement"
  | tunneling => "Tunneling"
  | routing => "Routing"
  | remoteLogging => "RemoteLogging"
  | remoteConfiguration => "RemoteConfiguration"
  | objectServer => "ObjectServer"

end Family

/-- The name of a status code in a response. -/
def statusName (code : UInt8) : String :=
  match code with
  | 0x00 => "E_NO_ERROR"
  | 0x01 => "E_HOST_PROTOCOL_TYPE"
  | 0x02 => "E_VERSION_NOT_SUPPORTED"
  | 0x04 => "E_SEQUENCE_NUMBER"
  | 0x21 => "E_CONNECTION_ID"
  | 0x22 => "E_CONNECTION_TYPE"
  | 0x23 => "E_CONNECTION_OPTION"
  | 0x24 => "E_NO_MORE_CONNECTIONS"
  | 0x26 => "E_DATA_CONNECTION"
  | 0x27 => "E_KNX_CONNECTION"
  | 0x29 => "E_TUNNELLING_LAYER"
  | _ => "E_UNKNOWN"

/-- The status code of success. -/
def statusOk : UInt8 := 0

/-- The most octets that a frame may have. -/
def maxFrameSize : Nat := 512

end KnxIp
