/-
  Supported families: the block in which a device lists the service families it offers.

  It holds at most sixteen entries of two octets: the code of a family and its version.
-/
import KnxIp.Fault

namespace KnxIp

/-- A family by its code, with its version. -/
structure FamilyVersion where
  family : UInt8
  version : UInt8
deriving DecidableEq, Repr

/-- The most entries of a list of families. -/
def maxFamilies : Nat := 16

/-- The families that a device offers. -/
structure Families where
  entries : List FamilyVersion
  size_le : entries.length ≤ maxFamilies
deriving DecidableEq, Repr

namespace Families

/-- The type of the block. -/
def blockType : UInt8 := 2

/-- The first sixteen of these entries. -/
def ofEntries (entries : List FamilyVersion) : Families :=
  ⟨entries.take maxFamilies, by simp only [List.length_take]; omega⟩

/-- The first sixteen of these families, with their versions. -/
def ofList (families : List (Family × UInt8)) : Families :=
  ofEntries (families.map fun (f, version) => ⟨f.code, version⟩)

/-- Whether a family is among the entries. -/
def supports (fs : Families) (f : Family) : Bool := fs.entries.any (·.family = f.code)

/-- The known families among the entries, ascending by code. -/
def known (fs : Families) : List Family := Family.all.filter fs.supports

/-- How many octets the block takes. -/
def encodedLength (fs : Families) : Nat := 2 + 2 * fs.entries.length

/-- The block as it travels: length, type, entries. -/
def bytes (fs : Families) : Bytes :=
  fs.encodedLength.toUInt8 :: blockType :: fs.entries.flatMap fun e => [e.family, e.version]

/-- The block in at most `room` octets. -/
def encode (fs : Families) (room : Nat) : Except FramingFault Bytes :=
  if room < fs.encodedLength then .error .bufferTooSmall else .ok fs.bytes

/-- Reads entries two octets at a time; an odd octet at the end is ignored. -/
def readEntries : Bytes → List FamilyVersion
  | family :: version :: rest => ⟨family, version⟩ :: readEntries rest
  | _ => []

/-- Reads the block at the front. -/
def parse : Bytes → Except FramingFault Families
  | length :: kind :: rest =>
    if kind ≠ blockType ∨ length < 2 ∨ length % 2 ≠ 0 then .error .invalidStructure
    else if rest.length + 2 < length.toNat then .error .bufferTooSmall
    else
      let entries := readEntries (rest.take (length.toNat - 2))
      if h : entries.length ≤ maxFamilies then .ok ⟨entries, h⟩ else .error .payloadTooLarge
  | _ => .error .bufferTooSmall

theorem parse_of_short {bs : Bytes} (short : bs.length < 2) :
    parse bs = .error .bufferTooSmall := by
  unfold parse
  split
  · simp only [List.length_cons] at short
    omega
  · rfl

theorem length_entries (es : List FamilyVersion) :
    (es.flatMap fun e => [e.family, e.version]).length = 2 * es.length := by
  induction es with
  | nil => rfl
  | cons e es ih => simp [List.flatMap_cons, ih]; omega

theorem length_bytes (fs : Families) : fs.bytes.length = fs.encodedLength := by
  rw [bytes, encodedLength, List.length_cons, List.length_cons, length_entries]
  omega

end Families
end KnxIp
