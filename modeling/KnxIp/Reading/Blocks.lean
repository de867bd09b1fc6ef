/-
  Readers of headers, endpoints, the small blocks of connections, and descriptions.

  Each reader takes its octets by their places, once it has made sure that there are enough. The
  blocks of a description are read in rounds, as long as there are octets left: a round takes the
  length of the next block from its first octet, cuts the block off and reads it.
-/
import KnxIp.Frame.Body
import KnxIp.Reading

namespace KnxIp

open Reading
open Body (framed)

/-- Reads the header of a frame. -/
def Header.read (bs : Bytes) : Reading Header := do
  require bs size
  refuse ((← octet bs 0) ≠ 6) (.framing .invalidHeader)
  refuse ((← octet bs 1) ≠ 0x10) (.framing .unsupportedVersion)
  let code := word (← octet bs 2) (← octet bs 3)
  let service ← orFail (Service.ofCode code) (.framing .unsupportedServiceType)
  return ⟨service, word (← octet bs 4) (← octet bs 5)⟩

/-- Reads the block of an endpoint. -/
def Endpoint.read (bs : Bytes) : Reading Endpoint := do
  require bs size
  refuse ((← octet bs 0) ≠ 8) (.framing .invalidStructure)
  refuse ((← octet bs 1) ≠ 1) (.framing .invalidStructure)
  let ip : Ipv4 := ⟨← octet bs 2, ← octet bs 3, ← octet bs 4, ← octet bs 5⟩
  return ⟨ip, word (← octet bs 6) (← octet bs 7)⟩

/-- Reads what kind of connection is asked for. -/
def ConnectionKind.read (bs : Bytes) : Reading ConnectionKind := do
  require bs 4
  refuse ((← octet bs 0) ≠ 4) (.framing .invalidStructure)
  return ⟨← octet bs 1, ← octet bs 2⟩

/-- Reads the address assigned to a connection. -/
def AssignedAddress.read (bs : Bytes) : Reading AssignedAddress := do
  require bs 4
  refuse ((← octet bs 0) ≠ 4) (.framing .invalidStructure)
  return ⟨← octet bs 1, .ofOctets (← octet bs 2) (← octet bs 3)⟩

/-- Reads the header of a tunneled frame. -/
def TunnelHeader.read (bs : Bytes) : Reading TunnelHeader := do
  require bs 4
  refuse ((← octet bs 0) ≠ 4) (.framing .invalidStructure)
  return ⟨← octet bs 1, ← octet bs 2, ← octet bs 3⟩

/-- Reads the block of device information. -/
def DeviceInfo.read (bs : Bytes) : Reading DeviceInfo := do
  require bs size
  refuse ((← octet bs 0) ≠ 54) (.framing .invalidStructure)
  refuse ((← octet bs 1) ≠ blockType) (.framing .invalidStructure)
  let serial ← sixOctets (← slice bs 8 14)
  let hardware ← sixOctets (← slice bs 18 24)
  let name := readName (← slice bs 24 (24 + nameSize))
  let medium ← octet bs 2
  let status ← octet bs 3
  let address := IndividualAddress.ofOctets (← octet bs 4) (← octet bs 5)
  let project := word (← octet bs 6) (← octet bs 7)
  let multicast : Ipv4 := ⟨← octet bs 14, ← octet bs 15, ← octet bs 16, ← octet bs 17⟩
  return { medium, status, address, project, serial, multicast, hardware, name }

/-- Reads entries, two octets at a time, and adds them to those there are. -/
def Families.readPairs (fs : Families) : Bytes → Reading Families
  | family :: version :: rest => do
    let pair := [family, version]
    let entry : FamilyVersion := ⟨← octet pair 0, ← octet pair 1⟩
    let entries ← orFail (← store maxFamilies (fs.entries ++ [entry])) (.framing .payloadTooLarge)
    readPairs ⟨entries.val, entries.property⟩ rest
  | _ => pure fs

/-- Reads the block of families. -/
def Families.read (bs : Bytes) : Reading Families := do
  require bs 2
  let length := (← octet bs 0).toNat
  refuse ((← octet bs 1) ≠ blockType ∨ length < 2 ∨ length % 2 ≠ 0) (.framing .invalidStructure)
  require bs length
  readPairs ⟨[], Nat.zero_le _⟩ (← slice bs 2 length)

/-- Reads a block, whose type is its second octet, and adds it to what was told. -/
def Description.Gathered.read (g : Gathered) (block : Bytes) : Reading Gathered := do
  let kind ← octet block 1
  if kind = DeviceInfo.blockType then
    let device ← DeviceInfo.read block
    return { g with device := some device }
  else if kind = Families.blockType then
    let families ← Families.read block
    return { g with families := some families }
  else
    let data ← sliceFrom block 2
    return { g with others := ⟨kind, data⟩ :: g.others }

namespace Description

/-- One round: reads the block at the front. What is left is the rest. -/
def round (g : Gathered) (bs : Bytes) : Reading (Gathered × Bytes) := do
  require bs 2
  let length := (← octet bs 0).toNat
  refuse (length < 2) (.framing .invalidStructure)
  require bs length
  let g ← g.read (← slice bs 0 length)
  return (g, ← sliceFrom bs length)

/-- Reads blocks up to the end, in no more rounds than these. -/
def readRounds : Nat → Gathered → Bytes → Reading Gathered
  | _, g, [] => pure g
  | 0, _, _ :: _ => unfinished
  | rounds + 1, g, b :: bs => do
    let (g, rest) ← round g (b :: bs)
    readRounds rounds g rest

/-- Reads the blocks of a description, in no more rounds than these. -/
def read (rounds : Nat) (bs : Bytes) : Reading Description := do
  let g ← readRounds rounds .empty bs
  ofResult (framed g.finish)

end Description
end KnxIp
