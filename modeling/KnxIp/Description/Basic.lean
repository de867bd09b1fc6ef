/-
  Device descriptions: the sequence of blocks in a search or description response.

  Every block begins with its length and its type. A description has one block of device
  information, one of supported families, and any number of other blocks, which are kept as they
  are. Reading goes block by block to the end of the octets; of several blocks of one of the two
  known types the last counts.
-/
import KnxIp.Description.Device
import KnxIp.Description.Families

namespace KnxIp

/-- A block that is not interpreted. -/
structure OtherBlock where
  kind : UInt8
  data : Bytes
deriving DecidableEq, Repr

namespace OtherBlock

/-- How many octets the block takes. -/
def encodedLength (b : OtherBlock) : Nat := 2 + b.data.length

/-- The block as it travels. -/
def bytes (b : OtherBlock) : Bytes := b.encodedLength.toUInt8 :: b.kind :: b.data

/-- The block in at most `room` octets. A block whose length does not fit into an octet is too
large, however much room there is. -/
def encode (b : OtherBlock) (room : Nat) : Except FramingFault Bytes :=
  if 255 < b.encodedLength then .error .payloadTooLarge
  else if room < b.encodedLength then .error .bufferTooSmall
  else .ok b.bytes

theorem length_bytes (b : OtherBlock) : b.bytes.length = b.encodedLength := by
  simp [bytes, encodedLength]; omega

end OtherBlock

/-- What a device says about itself and its services. -/
structure Description where
  device : DeviceInfo
  families : Families
  others : List OtherBlock
deriving DecidableEq, Repr

namespace Description

/-- How many octets the blocks take. -/
def encodedLength (d : Description) : Nat :=
  DeviceInfo.size + d.families.encodedLength + d.others.foldr (·.encodedLength + ·) 0

/-- Blocks one after the other in at most `room` octets. -/
def encodeOthers (room : Nat) : List OtherBlock → Except FramingFault Bytes
  | [] => .ok []
  | b :: bs => do
    let first ← b.encode room
    let rest ← encodeOthers (room - first.length) bs
    return first ++ rest

/-- The blocks in at most `room` octets: device information, families, the others. -/
def encode (d : Description) (room : Nat) : Except FramingFault Bytes := do
  let device ← d.device.encode room
  let families ← d.families.encode (room - device.length)
  let others ← encodeOthers (room - device.length - families.length) d.others
  return device ++ families ++ others

/-- What the blocks read so far have told. -/
structure Gathered where
  device : Option DeviceInfo
  families : Option Families
  /-- The other blocks, last one first. -/
  others : List OtherBlock

namespace Gathered

/-- Nothing read yet. -/
def empty : Gathered := ⟨none, none, []⟩

/-- One more block, given whole. -/
def add (g : Gathered) : Bytes → Except FramingFault Gathered
  | length :: kind :: data =>
    if kind = DeviceInfo.blockType then
      (DeviceInfo.parse (length :: kind :: data)).map fun d => { g with device := some d }
    else if kind = Families.blockType then
      (Families.parse (length :: kind :: data)).map fun f => { g with families := some f }
    else .ok { g with others := ⟨kind, data⟩ :: g.others }
  | _ => .error .bufferTooSmall

/-- The description, once both known blocks were read. -/
def finish (g : Gathered) : Except FramingFault Description :=
  match g.device, g.families with
  | some device, some families => .ok ⟨device, families, g.others.reverse⟩
  | _, _ => .error .invalidStructure

end Gathered

/-- The length that the block at the front announces: at least 2, and not more than there is. -/
def blockLength : (bs : Bytes) → Except FramingFault { n : Nat // 2 ≤ n ∧ n ≤ bs.length }
  | length :: _ :: rest =>
    if low : length.toNat < 2 then .error .invalidStructure
    else if high : rest.length + 2 < length.toNat then .error .bufferTooSmall
    else .ok ⟨length.toNat, by simp only [List.length_cons]; omega⟩
  | _ => .error .bufferTooSmall

/-- Reads blocks up to the end. -/
def readBlocks (g : Gathered) (bs : Bytes) : Except FramingFault Gathered :=
  if bs = [] then .ok g
  else match blockLength bs with
    | .error e => .error e
    | .ok ⟨n, _bounds⟩ =>
      match g.add (bs.take n) with
      | .error e => .error e
      | .ok g => readBlocks g (bs.drop n)
termination_by bs.length
decreasing_by
  simp only [List.length_drop]
  omega

/-- Reads the blocks of a description, which take up all octets. -/
def parse (bs : Bytes) : Except FramingFault Description := do
  (← readBlocks .empty bs).finish

end Description
end KnxIp
