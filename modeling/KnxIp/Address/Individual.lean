/-
  Individual addresses: one per device on the bus, and one per tunnel.

  Sixteen bits: area (4), line (4) and device (8), written with dots between them.
-/
import KnxIp.Bytes
import KnxIp.Address.Fault
import KnxIp.Text.Blank
import KnxIp.Text.Decimal
import KnxIp.Text.Split

namespace KnxIp

open Text

/-- An individual address by its wire value. -/
structure IndividualAddress where
  raw : UInt16
deriving DecidableEq, Repr, Inhabited

namespace IndividualAddress

/-- The address `0.0.0`, with which a tunnel client leaves the choice to its gateway. -/
def unspecified : IndividualAddress := ⟨0⟩

/-- The area, 0 to 15. -/
def area (a : IndividualAddress) : UInt8 := (a.raw / 4096).toUInt8

/-- The line, 0 to 15. -/
def line (a : IndividualAddress) : UInt8 := (a.raw / 256 % 16).toUInt8

/-- The device. -/
def device (a : IndividualAddress) : UInt8 := a.raw.toUInt8

/-- The address with these components: area and line at most 15. -/
def ofComponents (area line device : UInt8) : Except AddressFault IndividualAddress :=
  if 15 < area ∨ 15 < line then .error .outOfRange
  else .ok ⟨area.toUInt16 * 4096 + line.toUInt16 * 256 + device.toUInt16⟩

/-- The address on the wire, high octet first. -/
def bytes (a : IndividualAddress) : Bytes := wordBytes a.raw

/-- The address whose wire octets are `hi` and `lo`. -/
def ofOctets (hi lo : UInt8) : IndividualAddress := ⟨word hi lo⟩

/-- The notation with dots. -/
def text (a : IndividualAddress) : String :=
  decimal a.area.toNat ++ "." ++ decimal a.line.toNat ++ "." ++ decimal a.device.toNat

/-- The address that a list of components names. A component above 255 is none at all. -/
def ofParts : List (Option Nat) → Except AddressFault IndividualAddress
  | [some area, some line, some device] =>
    ofComponents area.toUInt8 line.toUInt8 device.toUInt8
  | _ => .error .invalidIndividual

/-- Reads the notation with dots. Blanks at the two ends are ignored. -/
def parse (text : String) : Except AddressFault IndividualAddress :=
  ofParts ((split '.' (trim text.toList)).map (readBounded 255))

@[simp] theorem ofOctets_bytes (a : IndividualAddress) :
    ofOctets (highOctet a.raw) (lowOctet a.raw) = a := by
  simp [ofOctets]

end IndividualAddress
end KnxIp
