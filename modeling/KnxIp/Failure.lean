/-
  Failures: why an operation of a client could not be carried out.

  A failure is a fault of octets, values or addresses, a fault of the connection, which carries
  the request and the response it is about, or a fault of the transport below.
-/
import KnxIp.Frame.Basic

namespace KnxIp

/-- What can be wrong with a connection. -/
inductive ConnectionFault
  /-- It was started before. -/
  | alreadyStarted
  /-- It is not started. -/
  | notStarted
  /-- No device answered the search. -/
  | discoveryNotReceived (request : Body)
  /-- The device did not describe itself. -/
  | descriptionNotReceived (request : Body)
  /-- The device does not offer tunneling. -/
  | tunnelingNotSupported (request response : Body)
  /-- No connect request led to a channel; the last refusal is kept. -/
  | channelIdNotReceived (request : Body) (refusal : Option Body)
  /-- A body carries the identifier of another channel. -/
  | wrongChannelId (received : Body)
  /-- The peer has stopped answering. -/
  | connectionLost
deriving DecidableEq

namespace ConnectionFault

/-- The name of a connection fault. -/
def name : ConnectionFault → String
  | alreadyStarted => "AlreadyStarted"
  | notStarted => "NotStarted"
  | discoveryNotReceived _ => "DiscoveryNotReceived"
  | descriptionNotReceived _ => "DescriptionNotReceived"
  | tunnelingNotSupported _ _ => "TunnelingNotSupported"
  | channelIdNotReceived _ _ => "ChannelIdNotReceived"
  | wrongChannelId _ => "WrongChannelId"
  | connectionLost => "ConnectionLost"

/-- The request that a connection fault is about. -/
def request : ConnectionFault → Option Body
  | discoveryNotReceived r | descriptionNotReceived r | tunnelingNotSupported r _
  | channelIdNotReceived r _ => some r
  | _ => none

/-- The response that a connection fault is about. -/
def response : ConnectionFault → Option Body
  | tunnelingNotSupported _ r | wrongChannelId r => some r
  | channelIdNotReceived _ r => r
  | _ => none

end ConnectionFault

/-- What a transport was about to do when it failed. -/
inductive TransportAction
  | bind
  | send
  | receive
  | socket
deriving DecidableEq, Repr

/-- The name of a transport action. -/
def TransportAction.name : TransportAction → String
  | bind => "Bind"
  | send => "Send"
  | receive => "Receive"
  | socket => "Socket"

/-- A failure of the transport, in the words of the system below. -/
structure TransportFault where
  action : TransportAction
  text : String
deriving DecidableEq, Repr

/-- Why an operation could not be carried out. -/
inductive Failure
  | fault (fault : Fault)
  | connection (fault : ConnectionFault)
  | transport (fault : TransportFault)
deriving DecidableEq

namespace Failure

/-- The message of a failure. -/
def message : Failure → String
  | fault f => f.message
  | connection f => "Connection error: " ++ f.name
  | transport f => "Transport error (" ++ f.action.name ++ "): " ++ f.text

/-- A bad value as a failure. -/
def ofValue (f : ValueFault) : Failure := fault (.value f)

/-- A framing fault as a failure. -/
def ofFraming (f : FramingFault) : Failure := fault (.framing f)

/-- A failure of framing. -/
def isFraming : Failure → Bool
  | fault (.framing _) => true
  | _ => false

/-- A failure because of a bad value of some kind. -/
def isValue (kind : ValueKind) : Failure → Bool
  | fault (.value f) => f.kind = kind
  | _ => false

/-- A failure because of an argument that does not go with the operation. -/
def isIllegalArgument (f : Failure) : Bool := f.isValue .illegalArgument

/-- A failure because of a number or a length outside its range. -/
def isOutOfRange (f : Failure) : Bool := f.isValue .outOfRange

end Failure
end KnxIp
