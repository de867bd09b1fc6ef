/-
  Device information: the block of 54 octets in which a device introduces itself.

  Its name takes the last 30 octets, in ISO 8859-1 and filled up with zeros: a longer name is cut,
  a character beyond that alphabet becomes a question mark, and a zero ends the name when it is
  read.
-/
import KnxIp.Endpoint

namespace KnxIp

/-- Six octets: a serial number or a hardware address. -/
structure SixOctets where
  o0 : UInt8
  o1 : UInt8
  o2 : UInt8
  o3 : UInt8
  o4 : UInt8
  o5 : UInt8
deriving DecidableEq, Repr

/-- The octets in order. -/
def SixOctets.bytes (s : SixOctets) : Bytes := [s.o0, s.o1, s.o2, s.o3, s.o4, s.o5]

/-- Six octets from a string that has just these. -/
def SixOctets.ofBytes? : Bytes → Option SixOctets
  | [o0, o1, o2, o3, o4, o5] => some ⟨o0, o1, o2, o3, o4, o5⟩
  | _ => none

/-- What a device says about itself. -/
structure DeviceInfo where
  /-- The code of the bus medium. -/
  medium : UInt8
  /-- Bit 0 is set in programming mode. -/
  status : UInt8
  address : IndividualAddress
  /-- Project and installation. -/
  project : UInt16
  serial : SixOctets
  /-- The address for routing. -/
  multicast : Ipv4
  hardware : SixOctets
  name : String
deriving DecidableEq, Repr

namespace DeviceInfo

/-- How many octets the block takes. -/
def size : Nat := 54

/-- How many octets the name has. -/
def nameSize : Nat := 30

/-- The type of the block. -/
def blockType : UInt8 := 1

/-- The device is in programming mode. -/
def isProgramming (d : DeviceInfo) : Bool := d.status % 2 = 1

/-- A character in ISO 8859-1, or a question mark. -/
def latin1 (c : Char) : UInt8 := if c.toNat < 256 then c.toNat.toUInt8 else 63

/-- The octets of a name: at most 30 characters, filled up with zeros. -/
def nameBytes (name : String) : Bytes :=
  let octets := (name.toList.take nameSize).map latin1
  octets ++ List.replicate (nameSize - octets.length) 0

/-- The name in these octets: it ends at the first zero. -/
def readName (octets : Bytes) : String :=
  String.ofList ((octets.takeWhile (· ≠ 0)).map fun b => Char.ofNat b.toNat)

/-- The block as it travels. -/
def bytes (d : DeviceInfo) : Bytes :=
  [54, blockType, d.medium, d.status] ++ d.address.bytes ++ wordBytes d.project ++
    d.serial.bytes ++ d.multicast.bytes ++ d.hardware.bytes ++ nameBytes d.name

/-- The block in at most `room` octets. -/
def encode (d : DeviceInfo) (room : Nat) : Except FramingFault Bytes :=
  if room < size then .error .bufferTooSmall else .ok d.bytes

/-- Reads the block at the front. -/
def parse : Bytes → Except FramingFault DeviceInfo
  | length :: kind :: medium :: status :: a1 :: a0 :: p1 :: p0 ::
      s0 :: s1 :: s2 :: s3 :: s4 :: s5 :: m0 :: m1 :: m2 :: m3 ::
      h0 :: h1 :: h2 :: h3 :: h4 :: h5 :: rest =>
    if rest.length < nameSize then .error .bufferTooSmall
    else if length ≠ 54 ∨ kind ≠ blockType then .error .invalidStructure
    else .ok
      { medium, status, address := .ofOctets a1 a0, project := word p1 p0
        serial := ⟨s0, s1, s2, s3, s4, s5⟩, multicast := ⟨m0, m1, m2, m3⟩
        hardware := ⟨h0, h1, h2, h3, h4, h5⟩, name := readName (rest.take nameSize) }
  | _ => .error .bufferTooSmall

theorem parse_of_short {bs : Bytes} (short : bs.length < size) :
    parse bs = .error .bufferTooSmall := by
  unfold parse
  split
  · rename_i rest
    have name : rest.length < nameSize := by
      simp only [List.length_cons, size, nameSize] at short ⊢
      omega
    rw [if_pos name]
  · rfl

theorem length_nameBytes (name : String) : (nameBytes name).length = nameSize := by
  simp only [nameBytes, List.length_append, List.length_replicate, List.length_map,
    List.length_take]
  omega

theorem length_bytes (d : DeviceInfo) : d.bytes.length = size := by
  simp [bytes, length_nameBytes, IndividualAddress.bytes, SixOctets.bytes, Ipv4.bytes, wordBytes,
    nameSize, size]

end DeviceInfo
end KnxIp
