/-
  Frames: a header and a body, one datagram.

  A frame is at most 512 octets long. Reading accepts a datagram only if its size is the total
  length of its header and the body that is read accounts for every octet behind the header.
-/
import KnxIp.Frame.Body

namespace KnxIp

/-- A frame. -/
structure Frame where
  header : Header
  body : Body
deriving DecidableEq

namespace Frame

/-- The frame of a body. -/
def ofBody (b : Body) : Frame := ⟨.forBody b.service b.encodedLength.toUInt16, b⟩

/-- The frame in at most `room` octets. The total length is that of what is written. -/
def encode (f : Frame) (room : Nat) : Except FramingFault Bytes :=
  if room < Header.size then .error .bufferTooSmall
  else do
    let body ← f.body.encode (room - Header.size)
    if maxFrameSize < Header.size + body.length then .error .payloadTooLarge
    else return (Header.forBody f.header.service body.length.toUInt16).bytes ++ body

/-- The frame as a datagram. -/
def bytes (f : Frame) : Except FramingFault Bytes := f.encode maxFrameSize

/-- Reads a datagram. -/
def decode (bs : Bytes) : Except Fault Frame := do
  let header ← Body.framed (Header.parse bs)
  if header.totalLength.toNat ≠ bs.length then .error (.framing .lengthMismatch)
  else
    let rest := bs.drop Header.size
    let body ← Body.parse header.service rest
    if body.encodedLength ≠ rest.length then .error (.framing .lengthMismatch)
    else return ⟨header, body⟩

end Frame
end KnxIp
