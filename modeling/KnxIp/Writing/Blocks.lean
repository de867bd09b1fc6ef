/-
  Writers of headers, endpoints, the small blocks of connections, and descriptions.

  Each writer makes sure that there is room and then puts its octets at their places. The blocks of
  a description are written one behind the other: the loop over the other blocks moves an offset on.
-/
import KnxIp.Frame.Body
import KnxIp.Writing

namespace KnxIp

open Writing

/-- Writes the header of a frame. -/
def Header.write (h : Header) : Writing Nat := do
  require size
  put 0 6
  put 1 0x10
  copy 2 4 (wordBytes h.service.code)
  copy 4 6 (wordBytes h.totalLength)
  return size

/-- Writes the block of an endpoint. -/
def Endpoint.write (e : Endpoint) : Writing Nat := do
  require size
  put 0 8
  put 1 1
  copy 2 6 e.ip.bytes
  copy 6 8 (wordBytes e.port)
  return size

/-- Writes what kind of connection is asked for. -/
def ConnectionKind.write (k : ConnectionKind) : Writing Nat := do
  require 4
  put 0 4
  put 1 k.connectionType
  put 2 k.layer
  put 3 0
  return 4

/-- Writes the address assigned to a connection. -/
def AssignedAddress.write (a : AssignedAddress) : Writing Nat := do
  require 4
  put 0 4
  put 1 a.connectionType
  copy 2 4 a.address.bytes
  return 4

/-- Writes the header of a tunneled frame. -/
def TunnelHeader.write (h : TunnelHeader) : Writing Nat := do
  require 4
  put 0 4
  put 1 h.channel
  put 2 h.sequence
  put 3 h.status
  return 4

namespace DeviceInfo

/-- Writes a name over the whole slice: zeros first, and then its characters as far as there is
room. -/
def writeName (name : String) : Writing Unit := do
  fill 0
  sideBySide (name.toList.map latin1)

/-- Writes the block of device information. -/
def write (d : DeviceInfo) : Writing Nat := do
  require size
  put 0 54
  put 1 blockType
  put 2 d.medium
  put 3 d.status
  copy 4 6 d.address.bytes
  copy 6 8 (wordBytes d.project)
  copy 8 14 d.serial.bytes
  copy 14 18 d.multicast.bytes
  copy 18 24 d.hardware.bytes
  within 24 (24 + nameSize) (writeName d.name)
  return size

end DeviceInfo

namespace Families

/-- Goes through the entries and pairs of octets side by side, and puts each entry over its pair. -/
def overPairs : List FamilyVersion → Bytes → Bytes
  | e :: es, _ :: _ :: slice => e.family :: e.version :: overPairs es slice
  | _, slice => slice

/-- Writes the block of families. -/
def write (fs : Families) : Writing Nat := do
  require fs.encodedLength
  put 0 fs.encodedLength.toUInt8
  put 1 blockType
  Writing.within 2 fs.encodedLength (modify (overPairs fs.entries))
  return fs.encodedLength

end Families

namespace OtherBlock

/-- Writes a block, unless its length does not fit into an octet. -/
def write (b : OtherBlock) : Writing Nat := do
  refuse (255 < b.encodedLength) .payloadTooLarge
  require b.encodedLength
  put 0 b.encodedLength.toUInt8
  put 1 b.kind
  copy 2 b.encodedLength b.data
  return b.encodedLength

end OtherBlock

namespace Description

/-- Writes blocks one behind the other, and the first one behind `offset`. -/
def writeOthers (offset : Nat) (bs : List OtherBlock) : Writing Nat :=
  bs.foldlM (fun offset b => append offset b.write) offset

/-- Writes the blocks: device information, families, the others. -/
def write (d : Description) : Writing Nat := do
  let offset ← d.device.write
  let offset ← append offset d.families.write
  writeOthers offset d.others

end Description
end KnxIp
