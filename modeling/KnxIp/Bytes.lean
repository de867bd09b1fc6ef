/-
  Octet strings and the big-endian 16-bit words inside them.

  Everything that travels on the wire is a `Bytes`. A word is split into its high and low octet
  and joined again (`word_high_low`, `high_word`, `low_word`). `overlay` is what an encoder does
  to the buffer it is given: the octets written replace the front, the rest stays.
-/

namespace KnxIp

/-- A string of octets, first octet first. -/
abbrev Bytes := List UInt8

/-- The word whose octets are `hi` and `lo`. -/
def word (hi lo : UInt8) : UInt16 := hi.toUInt16 * 256 + lo.toUInt16

/-- The first octet of a word on the wire. -/
def highOctet (w : UInt16) : UInt8 := (w / 256).toUInt8

/-- The second octet of a word on the wire. -/
def lowOctet (w : UInt16) : UInt8 := w.toUInt8

/-- A word as it travels: high octet first. -/
def wordBytes (w : UInt16) : Bytes := [highOctet w, lowOctet w]

theorem toNat_word (hi lo : UInt8) : (word hi lo).toNat = 256 * hi.toNat + lo.toNat := by
  have h := hi.toNat_lt
  have l := lo.toNat_lt
  simp only [word, UInt16.toNat_add, UInt16.toNat_mul, UInt8.toNat_toUInt16, UInt16.reduceToNat]
  omega

theorem toNat_highOctet (w : UInt16) : (highOctet w).toNat = w.toNat / 256 := by
  have h := w.toNat_lt
  simp only [highOctet, UInt16.toNat_toUInt8, UInt16.toNat_div, UInt16.reduceToNat]
  omega

theorem toNat_lowOctet (w : UInt16) : (lowOctet w).toNat = w.toNat % 256 := by
  simp [lowOctet, UInt16.toNat_toUInt8]

@[simp] theorem word_high_low (w : UInt16) : word (highOctet w) (lowOctet w) = w := by
  apply UInt16.toNat_inj.mp
  rw [toNat_word, toNat_highOctet, toNat_lowOctet]
  omega

@[simp] theorem high_word (hi lo : UInt8) : highOctet (word hi lo) = hi := by
  apply UInt8.toNat_inj.mp
  have l := lo.toNat_lt
  rw [toNat_highOctet, toNat_word]
  omega

@[simp] theorem low_word (hi lo : UInt8) : lowOctet (word hi lo) = lo := by
  apply UInt8.toNat_inj.mp
  have l := lo.toNat_lt
  rw [toNat_lowOctet, toNat_word]
  omega

/-- The buffer after `written` has been put at its front. -/
def overlay (written buffer : Bytes) : Bytes := written ++ buffer.drop written.length

/-- Writing within the buffer keeps its size. -/
theorem length_overlay {written buffer : Bytes} (h : written.length ≤ buffer.length) :
    (overlay written buffer).length = buffer.length := by
  simp [overlay]; omega

/-- An encoding put into a buffer: its length and the buffer afterwards. `encode` is told how many
octets there is room for. -/
def intoBuffer {ε : Type} (encode : Nat → Except ε Bytes) (buffer : Bytes) :
    Except ε (Nat × Bytes) :=
  (encode buffer.length).map fun bytes => (bytes.length, overlay bytes buffer)

end KnxIp
