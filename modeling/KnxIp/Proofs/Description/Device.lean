/-
  Device information with any name.

  The thirty octets of the name are too few for most texts. What comes back from them is the name
  shortened: thirty characters at most, each one that the alphabet lacks replaced by a question
  mark, and none from the first zero on. A shortened name fits, so shortening it again does nothing.

  Main statement. `read_of_write`: device information is written over any 54 octets and read back
  with its name shortened, and from then on it comes back as it is.
-/
import KnxIp.Proofs.Writing.Blocks

namespace KnxIp.DeviceInfo

open Writing

/-- The name that comes back: the first thirty characters, those beyond ISO 8859-1 replaced by a
question mark, up to the first zero among them. -/
def shortened (name : String) : String :=
  String.ofList (((name.toList.take nameSize).map inLatin1).takeWhile (· ≠ '\x00'))

/-- The device information that comes back. -/
def withNameShortened (d : DeviceInfo) : DeviceInfo := { d with name := shortened d.name }

theorem fits_shortened (name : String) : NameFits (shortened name) := by
  rw [shortened, ← readName_nameBytes]
  exact fits_readName (Nat.le_of_eq (length_nameBytes name))

theorem shortened_of_fits {name : String} (h : NameFits name) : shortened name = name := by
  rw [shortened, ← readName_nameBytes, readName_nameBytes_of_fits h]

theorem withNameShortened_twice (d : DeviceInfo) :
    d.withNameShortened.withNameShortened = d.withNameShortened := by
  simp only [withNameShortened, shortened_of_fits (fits_shortened d.name)]

/-- Whatever its name is, and whatever follows, device information is read back with its name
shortened. -/
theorem parse_bytes_append (d : DeviceInfo) (rest : Bytes) :
    parse (d.bytes ++ rest) = .ok d.withNameShortened := by
  have size := length_nameBytes d.name
  have room : ¬ (nameBytes d.name ++ rest).length < nameSize := by
    rw [List.length_append]
    omega
  have whole : (nameBytes d.name ++ rest).take nameSize = nameBytes d.name := List.take_left' size
  simp only [bytes, IndividualAddress.bytes, wordBytes, SixOctets.bytes, Ipv4.bytes,
    List.cons_append, List.nil_append, parse, if_neg room, whole, readName_nameBytes]
  simp [blockType, withNameShortened, shortened]

/-- Device information is written over the first 54 octets of a buffer, whatever they are. -/
theorem run_write (d : DeviceInfo) {buffer : Bytes} (room : 54 ≤ buffer.length) :
    d.write.run buffer = .ok 54 (overlay d.bytes buffer) := by
  have found : d.encode buffer.length = .ok d.bytes := if_neg (Nat.not_lt.mpr room)
  obtain ⟨-, written⟩ := d.writes_write.run_of_ok found
  rw [written, d.length_bytes, size]

theorem parse_take_overlay (d : DeviceInfo) (buffer : Bytes) :
    parse ((overlay d.bytes buffer).take 54) = .ok d.withNameShortened := by
  have front : (overlay d.bytes buffer).take 54 = d.bytes := List.take_left' d.length_bytes
  have back := d.parse_bytes_append []
  rw [List.append_nil] at back
  rw [front, back]

/-- Whatever its name is, device information is written into every buffer that has 54 octets, and
nothing behind them changes. Reading them gives the same device with its name shortened. That one
can be written into any such buffer in turn, and comes back as it is. -/
theorem read_of_write (d : DeviceInfo) {buffer : Bytes} (room : 54 ≤ buffer.length) :
    ∃ after, d.write.run buffer = .ok 54 after ∧ intoBuffer d.encode buffer = .ok (54, after) ∧
      after.drop 54 = buffer.drop 54 ∧
      parse (after.take 54) = .ok { d with name := shortened d.name } ∧
      ∀ buffer' : Bytes, 54 ≤ buffer'.length → ∃ after',
        (write { d with name := shortened d.name }).run buffer' = .ok 54 after' ∧
        parse (after'.take 54) = .ok { d with name := shortened d.name } := by
  have written := d.run_write room
  have behind : (overlay d.bytes buffer).drop size = buffer.drop size := by
    rw [← d.length_bytes]
    exact List.drop_left
  refine ⟨overlay d.bytes buffer, written, d.writes_write.run_eq_ok_iff.mp written, behind,
    d.parse_take_overlay buffer, ?_⟩
  intro buffer' room'
  have again := d.withNameShortened.parse_take_overlay buffer'
  rw [withNameShortened_twice] at again
  exact ⟨_, d.withNameShortened.run_write room', again⟩

/-- A sensor whose name is too long, has a character beyond ISO 8859-1, and ends in a zero before
the place. -/
def namedSensor : DeviceInfo where
  medium := 0x20
  status := 0
  address := ⟨0x1105⟩
  project := 1
  serial := ⟨0, 1, 2, 3, 4, 5⟩
  multicast := ⟨0, 0, 0, 0⟩
  hardware := ⟨0, 0x24, 0x6D, 0, 0, 1⟩
  name := "Fühler ☀ Dach\x00Westseite des Anbaus"

theorem read_of_write_namedSensor : 54 ≤ (List.replicate 60 0xEE).length ∧
    shortened namedSensor.name = "Fühler ? Dach" ∧
    ∃ after, namedSensor.write.run (List.replicate 60 0xEE) = .ok 54 after ∧
      intoBuffer namedSensor.encode (List.replicate 60 0xEE) = .ok (54, after) ∧
      after.drop 54 = List.replicate 6 0xEE ∧
      parse (after.take 54) = .ok { namedSensor with name := shortened namedSensor.name } ∧
      ∀ buffer' : Bytes, 54 ≤ buffer'.length → ∃ after',
        (write { namedSensor with name := shortened namedSensor.name }).run buffer' =
          .ok 54 after' ∧
        parse (after'.take 54) = .ok { namedSensor with name := shortened namedSensor.name } :=
  ⟨by decide, by decide, namedSensor.read_of_write (by decide)⟩

end KnxIp.DeviceInfo
