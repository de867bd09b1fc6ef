/-
  What can be wrong with octets, values and arguments.

  A fault is a cause; its kind and its wording are functions of the cause. Faults that need a
  connection or a transport are in `KnxIp.Failure`.
-/
import KnxIp.Address.Destination
import KnxIp.Service
import KnxIp.Text.Hexadecimal

namespace KnxIp

open Text

/-- The faults of framing: octets that do not make up what they should. -/
inductive FramingFault
  /-- There are fewer octets, or there is less room, than the structure needs. -/
  | bufferTooSmall
  /-- The header does not begin with its length. -/
  | invalidHeader
  /-- The header announces another version of the protocol. -/
  | unsupportedVersion
  /-- The service type is not known. -/
  | unsupportedServiceType
  /-- The message code is none of the data link layer. -/
  | invalidMessageCode
  /-- A structure has a wrong length or type octet. -/
  | invalidStructure
  /-- An announced length is not the real one. -/
  | lengthMismatch
  /-- There is more content than the structure can hold. -/
  | payloadTooLarge
deriving DecidableEq, Repr

/-- The name of a framing fault. -/
def FramingFault.name : FramingFault → String
  | bufferTooSmall => "BufferTooSmall"
  | invalidHeader => "InvalidHeader"
  | unsupportedVersion => "UnsupportedVersion"
  | unsupportedServiceType => "UnsupportedServiceType"
  | invalidMessageCode => "InvalidMessageCode"
  | invalidStructure => "InvalidStructure"
  | lengthMismatch => "LengthMismatch"
  | payloadTooLarge => "PayloadTooLarge"

/-- The two kinds of bad value. -/
inductive ValueKind
  /-- A number or a length outside its range. -/
  | outOfRange
  /-- An argument that does not go with the operation. -/
  | illegalArgument
deriving DecidableEq, Repr

/-- The name of a kind of bad value. -/
def ValueKind.name : ValueKind → String
  | outOfRange => "OutOfRange"
  | illegalArgument => "IllegalArgument"

/-- The causes of bad values. -/
inductive ValueFault
  /-- A hop count above 7. -/
  | hopCount (count : UInt8)
  /-- An extended frame format above 15. -/
  | frameFormat (format : UInt8)
  /-- A sequence number of the transport layer above 15. -/
  | transportSequence (sequence : UInt8)
  /-- A control code of the transport layer above 3. -/
  | transportControl (control : UInt8)
  /-- More additional information than a telegram can carry. -/
  | additionalInfo
  /-- More application data than a telegram can carry. -/
  | applicationData
  /-- The octets behind the transport octet are not as many as announced. -/
  | npduLength (announced present : Nat)
  /-- A data packet whose application octet is missing. -/
  | missingApplicationOctet
  /-- A control packet that announces application octets. -/
  | controlPacketLength (announced : Nat)
  /-- The address-type bit does not fit the destination. -/
  | addressType (destination : Destination)
  /-- A control packet with an application service. -/
  | serviceOnControlPacket
  /-- A bare code that is that of a named service, or no extended code. -/
  | assignedCode (code : UInt16)
  /-- A data packet without an application service. -/
  | missingService
  /-- A control packet with data. -/
  | dataOnControlPacket
  /-- A retry budget of zero. -/
  | retryBudget
  /-- A socket timeout of zero. -/
  | socketTimeout
  /-- A keep-alive interval of zero. -/
  | keepAliveInterval
  /-- A line of settings without an equals sign. -/
  | malformedLine (line : String)
  /-- A setting whose value cannot be read. -/
  | invalidSetting (value key : String)
  /-- A transport mode that is not known. -/
  | unknownMode (mode : String)
  /-- A body that does not ask for an answer. -/
  | notARequest (service : Service)
  /-- No open channel takes frames of this service type. -/
  | noChannel (channel : Channel) (service : Service)
deriving DecidableEq, Repr

namespace ValueFault

/-- The kind of a bad value: settings and mismatches are illegal arguments, numbers and lengths
are out of range. -/
def kind : ValueFault → ValueKind
  | hopCount _ | frameFormat _ | transportSequence _ | transportControl _ | additionalInfo
  | applicationData | npduLength _ _ | missingApplicationOctet | controlPacketLength _ =>
    .outOfRange
  | addressType _ | serviceOnControlPacket | assignedCode _ | missingService
  | dataOnControlPacket | retryBudget | socketTimeout | keepAliveInterval | malformedLine _
  | invalidSetting _ _ | unknownMode _ | notARequest _ | noChannel _ _ => .illegalArgument

/-- The wording of a bad value. -/
def text : ValueFault → String
  | hopCount n => "hop count " ++ decimal n.toNat ++ " exceeds 7"
  | frameFormat n => "extended frame format " ++ decimal n.toNat ++ " exceeds 15"
  | transportSequence n => "TPCI sequence " ++ decimal n.toNat ++ " exceeds 15"
  | transportControl n => "TPCI control code " ++ decimal n.toNat ++ " exceeds 3"
  | additionalInfo => "additional info exceeds 64 bytes"
  | applicationData => "APCI data exceeds 254 bytes"
  | npduLength n m =>
    "NPDU length " ++ decimal n ++ " does not match " ++ decimal m ++ " trailing bytes"
  | missingApplicationOctet => "data packet without APCI byte"
  | controlPacketLength n => "control packet with NPDU length " ++ decimal n
  | addressType d => "control field 2 address type does not match destination " ++ d.text
  | serviceOnControlPacket => "APCI on a control packet"
  | assignedCode c =>
    "APCI code 0x" ++ hexadecimal 3 c.toNat ++ " is not an unassigned extended code"
  | missingService => "data packet without APCI"
  | dataOnControlPacket => "control packet with data"
  | retryBudget => "retry budgets must be at least 1"
  | socketTimeout => "socket timeout must not be zero"
  | keepAliveInterval => "connection-state interval must not be zero"
  | malformedLine line => "malformed line '" ++ line ++ "'"
  | invalidSetting value key => "invalid value '" ++ value ++ "' for " ++ key
  | unknownMode mode => "unknown transport mode '" ++ mode ++ "'"
  | notARequest s => s.name ++ " is not a correlated request"
  | noChannel c s => "no " ++ c.name ++ " channel for " ++ s.name

end ValueFault

/-- What can be wrong with octets, values, arguments and addresses. -/
inductive Fault
  | framing (fault : FramingFault)
  | value (fault : ValueFault)
  | address (fault : AddressFault)
deriving DecidableEq, Repr

/-- The message of a fault. -/
def Fault.message : Fault → String
  | framing f => "Protocol error: " ++ f.name
  | value f => "Value error (" ++ f.kind.name ++ "): " ++ f.text
  | address f => "Addressing error: " ++ f.name

end KnxIp
