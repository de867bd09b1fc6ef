/-
  Frame headers: six octets with the service type and the total length.

  The total length is sixteen bits wide, and so is its sum with the size of the header.
-/
import KnxIp.Fault

namespace KnxIp

/-- The header of a frame. -/
structure Header where
  service : Service
  /-- The length of the whole frame, header included. -/
  totalLength : UInt16
deriving DecidableEq, Repr

namespace Header

/-- How many octets a header takes. -/
def size : Nat := 6

/-- The header before a body of some length. -/
def forBody (service : Service) (bodyLength : UInt16) : Header := ⟨service, 6 + bodyLength⟩

/-- The length of the body; 0 if the total length does not even cover the header. -/
def bodyLength (h : Header) : UInt16 := if h.totalLength < 6 then 0 else h.totalLength - 6

/-- The header as it travels: its own length, the protocol version, service and total length. -/
def bytes (h : Header) : Bytes := [6, 0x10] ++ wordBytes h.service.code ++ wordBytes h.totalLength

/-- The header in at most `room` octets. -/
def encode (h : Header) (room : Nat) : Except FramingFault Bytes :=
  if room < size then .error .bufferTooSmall else .ok h.bytes

/-- Reads the header at the front. -/
def parse : Bytes → Except FramingFault Header
  | length :: version :: s1 :: s0 :: t1 :: t0 :: _ =>
    if length ≠ 6 then .error .invalidHeader
    else if version ≠ 0x10 then .error .unsupportedVersion
    else match Service.ofCode (word s1 s0) with
      | none => .error .unsupportedServiceType
      | some service => .ok ⟨service, word t1 t0⟩
  | _ => .error .bufferTooSmall

theorem length_bytes (h : Header) : h.bytes.length = size := rfl

theorem parse_of_short {bs : Bytes} (short : bs.length < size) :
    parse bs = .error .bufferTooSmall := by
  unfold parse
  split
  · simp only [List.length_cons, size] at short
    omega
  · rfl

/-- Behind a header that was read there may be more octets, but not fewer. -/
theorem size_le_of_parse {bs : Bytes} {h : Header} (parsed : parse bs = .ok h) :
    size ≤ bs.length := by
  apply Nat.le_of_not_lt
  intro short
  rw [parse_of_short short] at parsed
  cases parsed

/-- Reading a written header gives it back, whatever follows. -/
theorem parse_bytes_append (h : Header) (rest : Bytes) : parse (h.bytes ++ rest) = .ok h := by
  simp [bytes, wordBytes, parse, Service.ofCode_code]

end Header
end KnxIp
