/-
  Group addresses: names for logical functions on the bus.

  Sixteen bits, written in one of two notations: main (5 bits), middle (3) and sub (8), or main
  (5) and sub (11). Both name the same address.
-/
import KnxIp.Bytes
import KnxIp.Address.Fault
import KnxIp.Text.Blank
import KnxIp.Text.Decimal
import KnxIp.Text.Split

namespace KnxIp

open Text

/-- A group address by its wire value. -/
structure GroupAddress where
  raw : UInt16
deriving DecidableEq, Repr, Inhabited

namespace GroupAddress

/-- The main group, 0 to 31. -/
def main (g : GroupAddress) : UInt8 := (g.raw / 2048).toUInt8

/-- The middle group of the three-level notation, 0 to 7. -/
def middle (g : GroupAddress) : UInt8 := (g.raw / 256 % 8).toUInt8

/-- The sub group of the three-level notation. -/
def sub (g : GroupAddress) : UInt8 := g.raw.toUInt8

/-- The sub group of the two-level notation, 0 to 2047. -/
def wideSub (g : GroupAddress) : UInt16 := g.raw % 2048

/-- The address with these three levels: main at most 31, middle at most 7. -/
def ofThreeLevels (main middle sub : UInt8) : Except AddressFault GroupAddress :=
  if 31 < main ∨ 7 < middle then .error .outOfRange
  else .ok ⟨main.toUInt16 * 2048 + middle.toUInt16 * 256 + sub.toUInt16⟩

/-- The address with these two levels: main at most 31, sub at most 2047. -/
def ofTwoLevels (main : UInt8) (sub : UInt16) : Except AddressFault GroupAddress :=
  if 31 < main ∨ 2047 < sub then .error .outOfRange
  else .ok ⟨main.toUInt16 * 2048 + sub⟩

/-- The address on the wire, high octet first. -/
def bytes (g : GroupAddress) : Bytes := wordBytes g.raw

/-- The address whose wire octets are `hi` and `lo`. -/
def ofOctets (hi lo : UInt8) : GroupAddress := ⟨word hi lo⟩

/-- The three-level notation. -/
def text (g : GroupAddress) : String :=
  decimal g.main.toNat ++ "/" ++ decimal g.middle.toNat ++ "/" ++ decimal g.sub.toNat

/-- The two-level notation. -/
def twoLevelText (g : GroupAddress) : String :=
  decimal g.main.toNat ++ "/" ++ decimal g.wideSub.toNat

/-- A level that has to fit into one octet. -/
def octetLevel (n : Nat) : Except AddressFault UInt8 :=
  if n ≤ 255 then .ok n.toUInt8 else .error .outOfRange

/-- The address that a list of levels names. A level above 65535 is no level at all; one that is
too large for its place is out of range. -/
def ofLevels : List (Option Nat) → Except AddressFault GroupAddress
  | [some main, some middle, some sub] => do
    ofThreeLevels (← octetLevel main) (← octetLevel middle) (← octetLevel sub)
  | [some main, some sub] => do ofTwoLevels (← octetLevel main) sub.toUInt16
  | _ => .error .invalidGroup

/-- Reads either notation. Blanks at the two ends are ignored. -/
def parse (text : String) : Except AddressFault GroupAddress :=
  ofLevels ((split '/' (trim text.toList)).map (readBounded 65535))

end GroupAddress
end KnxIp
