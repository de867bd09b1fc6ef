/-
  Writers of telegrams, bodies and frames.

  A body is written part by part, each part into what is left of the buffer. The header of a frame
  is written last, when the length of the body is known.
-/
import KnxIp.Frame.Basic
import KnxIp.Writing.Blocks

namespace KnxIp

open Writing

namespace Telegram.Content

/-- Writes the application octet at a place and the data behind it, where there is a service. -/
def writePayload (c : Content) (place : Nat) : Writing Unit :=
  match c.apci with
  | none => pure ()
  | some a =>
    if c.isInline then
      match c.data.val with
      | b :: _ => put place (a.code.toUInt8 + b)
      | [] => throw .outside
    else do
      put place a.code.toUInt8
      copy (place + 1) (place + 1 + c.data.val.length) c.data.val

/-- Writes the fields behind the additional information, which ends at `start`. The transport octet
comes last. -/
def writeFields (c : Content) (start : Nat) : Writing Nat := do
  put start c.control1.raw
  put (start + 1) c.control2.raw
  copy (start + 2) (start + 4) c.source.bytes
  copy (start + 4) (start + 6) (wordBytes c.destination.raw)
  put (start + 6) c.npduLength
  c.writePayload (start + 8)
  put (start + 7) c.transportOctet
  return c.encodedLength

/-- Writes a telegram. -/
def write (c : Content) : Writing Nat := do
  require c.encodedLength
  put 0 c.messageCode.code
  put 1 c.info.val.length.toUInt8
  copy 2 (2 + c.info.val.length) c.info.val
  c.writeFields (2 + c.info.val.length)

end Telegram.Content

namespace Body

/-- Writes a channel and a status. -/
def writePair (channel status : UInt8) : Writing Nat := do
  require 2
  put 0 channel
  put 1 status
  return 2

/-- Writes a channel and the endpoint behind a reserved octet. -/
def writeChannelRequest (channel : UInt8) (e : Endpoint) : Writing Nat := do
  require 10
  put 0 channel
  put 1 0
  append 2 e.write

/-- Writes a connect response. The assigned address only goes behind a data endpoint. -/
def writeConnectResponse (channel status : UInt8) (data : Option Endpoint)
    (assigned : Option AssignedAddress) : Writing Nat := do
  let offset ← writePair channel status
  match data with
  | none => return offset
  | some e =>
    let offset ← append offset e.write
    match assigned with
    | none => return offset
    | some a => append offset a.write

/-- Writes a body. -/
def write : Body → Writing Nat
  | searchRequest e | descriptionRequest e => e.write
  | searchResponse e d => do append (← e.write) d.write
  | descriptionResponse d => d.write
  | connectRequest c d k => do
    let offset ← c.write
    let offset ← append offset d.write
    append offset k.write
  | connectResponse c s data assigned => writeConnectResponse c s data assigned
  | connectionStateRequest c e | disconnectRequest c e => writeChannelRequest c e
  | connectionStateResponse c s | disconnectResponse c s => writePair c s
  | tunnelingRequest h t => do append (← h.write) t.write
  | tunnelingAck h => h.write
  | routingIndication t => t.write
  | routingLostMessage s lost => do
    require 4
    put 0 4
    put 1 s
    copy 2 4 (wordBytes lost)
    return 4
  | routingBusy s wait control => do
    require 6
    put 0 6
    put 1 s
    copy 2 4 (wordBytes wait)
    copy 4 6 (wordBytes control)
    return 6

end Body

/-- Writes a frame: the body behind the place of the header, and then the header. -/
def Frame.write (f : Frame) : Writing Nat := do
  require Header.size
  let bodyLength ← behind Header.size f.body.write
  refuse (maxFrameSize < Header.size + bodyLength) .payloadTooLarge
  let _ ← (Header.forBody f.header.service bodyLength.toUInt16).write
  return Header.size + bodyLength

end KnxIp
