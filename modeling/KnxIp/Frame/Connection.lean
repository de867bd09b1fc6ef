/-
  The small blocks of connections, four octets each: what kind of connection is asked for, which
  address was assigned, and the header of tunneled frames.
-/
import KnxIp.Fault

namespace KnxIp

/-- The connection type of tunnels. -/
def tunnelConnection : UInt8 := 4

/-- What kind of connection a client asks for. -/
structure ConnectionKind where
  connectionType : UInt8
  layer : UInt8
deriving DecidableEq, Repr

namespace ConnectionKind

/-- A tunnel on the link layer. -/
def tunnelLinkLayer : ConnectionKind := ⟨tunnelConnection, 2⟩

/-- The block: length, type, layer, reserved. -/
def bytes (k : ConnectionKind) : Bytes := [4, k.connectionType, k.layer, 0]

/-- The block in at most `room` octets. -/
def encode (k : ConnectionKind) (room : Nat) : Except FramingFault Bytes :=
  if room < 4 then .error .bufferTooSmall else .ok k.bytes

/-- Reads the block at the front. The reserved octet is ignored. -/
def parse : Bytes → Except FramingFault ConnectionKind
  | length :: connectionType :: layer :: _ :: _ =>
    if length ≠ 4 then .error .invalidStructure else .ok ⟨connectionType, layer⟩
  | _ => .error .bufferTooSmall

theorem parse_of_short {bs : Bytes} (short : bs.length < 4) :
    parse bs = .error .bufferTooSmall := by
  unfold parse
  split
  · simp only [List.length_cons] at short
    omega
  · rfl

theorem parse_bytes_append (k : ConnectionKind) (rest : Bytes) :
    parse (k.bytes ++ rest) = .ok k := by
  simp [bytes, parse]

end ConnectionKind

/-- The individual address that a gateway assigned to a connection. -/
structure AssignedAddress where
  connectionType : UInt8
  address : IndividualAddress
deriving DecidableEq, Repr

namespace AssignedAddress

/-- The address of a tunnel. -/
def tunnel (address : IndividualAddress) : AssignedAddress := ⟨tunnelConnection, address⟩

/-- The block: length, type, address. -/
def bytes (a : AssignedAddress) : Bytes := [4, a.connectionType] ++ a.address.bytes

/-- The block in at most `room` octets. -/
def encode (a : AssignedAddress) (room : Nat) : Except FramingFault Bytes :=
  if room < 4 then .error .bufferTooSmall else .ok a.bytes

/-- Reads the block at the front. -/
def parse : Bytes → Except FramingFault AssignedAddress
  | length :: connectionType :: a1 :: a0 :: _ =>
    if length ≠ 4 then .error .invalidStructure else .ok ⟨connectionType, .ofOctets a1 a0⟩
  | _ => .error .bufferTooSmall

theorem parse_of_short {bs : Bytes} (short : bs.length < 4) :
    parse bs = .error .bufferTooSmall := by
  unfold parse
  split
  · simp only [List.length_cons] at short
    omega
  · rfl

theorem parse_bytes_append (a : AssignedAddress) (rest : Bytes) :
    parse (a.bytes ++ rest) = .ok a := by
  simp [bytes, IndividualAddress.bytes, IndividualAddress.ofOctets, wordBytes, parse]

end AssignedAddress

/-- The header of tunneled frames: channel, sequence number, and the status of an
acknowledgement. -/
structure TunnelHeader where
  channel : UInt8
  sequence : UInt8
  status : UInt8
deriving DecidableEq, Repr

namespace TunnelHeader

/-- The block: length, channel, sequence number, status. -/
def bytes (h : TunnelHeader) : Bytes := [4, h.channel, h.sequence, h.status]

/-- The block in at most `room` octets. -/
def encode (h : TunnelHeader) (room : Nat) : Except FramingFault Bytes :=
  if room < 4 then .error .bufferTooSmall else .ok h.bytes

/-- Reads the block at the front. -/
def parse : Bytes → Except FramingFault TunnelHeader
  | length :: channel :: sequence :: status :: _ =>
    if length ≠ 4 then .error .invalidStructure else .ok ⟨channel, sequence, status⟩
  | _ => .error .bufferTooSmall

theorem parse_of_short {bs : Bytes} (short : bs.length < 4) :
    parse bs = .error .bufferTooSmall := by
  unfold parse
  split
  · simp only [List.length_cons] at short
    omega
  · rfl

/-- Behind a header that was read there may be more octets, but not fewer. -/
theorem four_le_of_parse {bs : Bytes} {h : TunnelHeader} (parsed : parse bs = .ok h) :
    4 ≤ bs.length := by
  apply Nat.le_of_not_lt
  intro short
  rw [parse_of_short short] at parsed
  cases parsed

theorem parse_bytes_append (h : TunnelHeader) (rest : Bytes) :
    parse (h.bytes ++ rest) = .ok h := by
  simp [bytes, parse]

end TunnelHeader
end KnxIp
