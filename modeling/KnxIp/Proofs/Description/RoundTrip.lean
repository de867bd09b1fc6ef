/-
  Device descriptions written and read back.

  A description is representable if the name of its device fits and its other blocks are neither
  of a known type nor too long for their length octet. A representable description is written
  (`encode_eq_ok`) and read back (`parse_bytes`), and what is read is representable
  (`representable_of_parse`).

  Reading keeps what it has gathered so far in a `Gathered`; one block is one step
  (`readBlocks_append`), and every step keeps what was gathered representable
  (`representable_of_add`, `representable_of_readBlocks`).
-/
import KnxIp.Description.Basic
import KnxIp.Proofs.Description.Name
import KnxIp.Proofs.Result

namespace KnxIp

/-! ## The blocks -/

namespace DeviceInfo

theorem parse_bytes {d : DeviceInfo} (h : NameFits d.name) : parse d.bytes = .ok d := by
  have size := length_nameBytes d.name
  have room : ¬ (nameBytes d.name).length < nameSize := by omega
  have whole : (nameBytes d.name).take nameSize = nameBytes d.name :=
    List.take_of_length_le (Nat.le_of_eq size)
  simp only [bytes, IndividualAddress.bytes, wordBytes, SixOctets.bytes, Ipv4.bytes,
    List.cons_append, List.nil_append, parse, if_neg room, whole, readName_nameBytes_of_fits h]
  simp [blockType]

theorem fits_of_parse {bs : Bytes} {d : DeviceInfo} (h : parse bs = .ok d) :
    NameFits d.name := by
  unfold parse at h
  split at h
  · split at h
    · cases h
    · split at h
      · cases h
      · cases h
        exact fits_readName (List.length_take_le _ _)
  · cases h

end DeviceInfo

namespace Families

theorem readEntries_flatMap (es : List FamilyVersion) :
    readEntries (es.flatMap fun e => [e.family, e.version]) = es := by
  induction es with
  | nil => rfl
  | cons e es ih => simp [List.flatMap_cons, readEntries, ih]

theorem toNat_encodedLength (fs : Families) :
    fs.encodedLength.toUInt8.toNat = 2 + 2 * fs.entries.length := by
  have bound := fs.size_le
  unfold maxFamilies at bound
  simp only [encodedLength, Nat.toUInt8_eq, UInt8.toNat_ofNat']
  omega

theorem parse_bytes (fs : Families) : parse fs.bytes = .ok fs := by
  have len := fs.toNat_encodedLength
  have even : fs.encodedLength.toUInt8 % 2 = 0 := by
    apply UInt8.toNat_inj.mp
    rw [UInt8.toNat_mod, len]
    simp only [UInt8.reduceToNat]
    omega
  have two : ¬ fs.encodedLength.toUInt8 < 2 := by
    rw [UInt8.lt_iff_toNat_lt, len]
    simp only [UInt8.reduceToNat]
    omega
  have whole : (fs.entries.flatMap fun e => [e.family, e.version]).take
      (fs.encodedLength.toUInt8.toNat - 2) =
      fs.entries.flatMap fun e => [e.family, e.version] :=
    List.take_of_length_le (by rw [length_entries, len]; omega)
  simp only [bytes, parse, even, two, whole, readEntries_flatMap]
  rw [if_neg (by simp), if_neg (by rw [length_entries, len]; omega), dif_pos fs.size_le]

end Families

namespace OtherBlock

/-- A block of a type that is not interpreted, with a length that fits into an octet. -/
structure Plain (b : OtherBlock) : Prop where
  not_device : b.kind ≠ DeviceInfo.blockType
  not_families : b.kind ≠ Families.blockType
  length_le : b.data.length ≤ 253

end OtherBlock

/-! ## Writing -/

namespace Description

/-- The blocks one after the other. -/
def bytes (d : Description) : Bytes :=
  d.device.bytes ++ d.families.bytes ++ d.others.flatMap OtherBlock.bytes

/-- The name of the device fits, and every other block is plain. -/
structure Representable (d : Description) : Prop where
  name : DeviceInfo.NameFits d.device.name
  others : ∀ b ∈ d.others, b.Plain

theorem length_others (bs : List OtherBlock) :
    (bs.flatMap OtherBlock.bytes).length = bs.foldr (·.encodedLength + ·) 0 := by
  induction bs with
  | nil => rfl
  | cons b bs ih => simp [List.flatMap_cons, OtherBlock.length_bytes, ih]

theorem length_bytes (d : Description) : d.bytes.length = d.encodedLength := by
  simp only [bytes, List.length_append, DeviceInfo.length_bytes, Families.length_bytes,
    length_others, encodedLength]

theorem encodeOthers_eq_ok {bs : List OtherBlock} {room : Nat}
    (short : ∀ b ∈ bs, b.data.length ≤ 253)
    (h : (bs.flatMap OtherBlock.bytes).length ≤ room) :
    encodeOthers room bs = .ok (bs.flatMap OtherBlock.bytes) := by
  induction bs generalizing room with
  | nil => rfl
  | cons b bs ih =>
    rw [List.flatMap_cons, List.length_append] at h
    have first : b.encode room = .ok b.bytes := by
      have := short b List.mem_cons_self
      rw [OtherBlock.length_bytes] at h
      rw [OtherBlock.encode, if_neg (by unfold OtherBlock.encodedLength; omega),
        if_neg (by omega)]
    have rest : encodeOthers (room - b.bytes.length) bs = .ok (bs.flatMap OtherBlock.bytes) :=
      ih (fun b hb => short b (List.mem_cons_of_mem _ hb)) (by omega)
    simp only [encodeOthers, first, bind, Except.bind, rest, pure, Except.pure,
      List.flatMap_cons]

theorem encode_eq_ok {d : Description} {room : Nat} (short : ∀ b ∈ d.others, b.data.length ≤ 253)
    (h : d.encodedLength ≤ room) : d.encode room = .ok d.bytes := by
  have len := d.length_bytes
  simp only [bytes, List.length_append] at len
  have device : d.device.encode room = .ok d.device.bytes := by
    have := d.device.length_bytes
    rw [DeviceInfo.encode, if_neg (by omega)]
  have families : d.families.encode (room - d.device.bytes.length) = .ok d.families.bytes := by
    have := d.families.length_bytes
    rw [Families.encode, if_neg (by omega)]
  have others : encodeOthers (room - d.device.bytes.length - d.families.bytes.length) d.others =
      .ok (d.others.flatMap OtherBlock.bytes) := encodeOthers_eq_ok short (by omega)
  simp only [encode, device, families, others, bind, Except.bind, pure, Except.pure, bytes]

/-! ## Reading what was written -/

/-- Octets that begin with their number, which is at least two. -/
def IsBlock (bs : Bytes) : Prop :=
  ∃ length kind data, bs = length :: kind :: data ∧ length.toNat = 2 + data.length

theorem isBlock_device (d : DeviceInfo) : IsBlock d.bytes := by
  refine ⟨54, DeviceInfo.blockType, d.bytes.drop 2, rfl, ?_⟩
  rw [List.length_drop, DeviceInfo.length_bytes]
  rfl

theorem isBlock_families (fs : Families) : IsBlock fs.bytes := by
  refine ⟨fs.encodedLength.toUInt8, Families.blockType, _, rfl, ?_⟩
  rw [Families.toNat_encodedLength, Families.length_entries]

theorem isBlock_plain {b : OtherBlock} (h : b.Plain) : IsBlock b.bytes := by
  refine ⟨b.encodedLength.toUInt8, b.kind, b.data, rfl, ?_⟩
  have := h.length_le
  simp only [OtherBlock.encodedLength, Nat.toUInt8_eq, UInt8.toNat_ofNat']
  omega

/-- A block at the front is added, and reading goes on behind it. -/
theorem readBlocks_append {block : Bytes} (h : IsBlock block) (g : Gathered) (rest : Bytes) :
    readBlocks g (block ++ rest) = (g.add block).bind (readBlocks · rest) := by
  obtain ⟨length, kind, data, rfl, counts⟩ := h
  have front : (length :: kind :: (data ++ rest)).take length.toNat = length :: kind :: data := by
    rw [counts, Nat.add_comm]
    simp
  have behind : (length :: kind :: (data ++ rest)).drop length.toNat = rest := by
    rw [counts, Nat.add_comm]
    simp
  have low : ¬ length.toNat < 2 := by omega
  have high : ¬ (data ++ rest).length + 2 < length.toNat := by
    rw [List.length_append]
    omega
  rw [List.cons_append, List.cons_append, readBlocks, if_neg (by simp)]
  simp only [blockLength, dif_neg low, dif_neg high, front, behind]
  cases g.add (length :: kind :: data) <;> rfl

theorem IsBlock.length_le {bs : Bytes} (h : IsBlock bs) : bs.length ≤ 255 := by
  obtain ⟨length, kind, data, rfl, counts⟩ := h
  have := length.toNat_lt
  simp only [List.length_cons]
  omega

/-- What the length octet at the front announces is a block. -/
theorem isBlock_of_blockLength {bs : Bytes} {n : { n : Nat // 2 ≤ n ∧ n ≤ bs.length }}
    (h : blockLength bs = .ok n) : IsBlock (bs.take n) := by
  unfold blockLength at h
  split at h
  · rename_i length kind rest
    split at h
    · cases h
    · split at h
      · cases h
      · rename_i low high
        cases h
        refine ⟨length, kind, rest.take (length.toNat - 2), ?_, ?_⟩
        · obtain ⟨m, hm⟩ : ∃ m, length.toNat = m + 2 := ⟨length.toNat - 2, by omega⟩
          simp [hm]
        · rw [List.length_take]
          omega
  · cases h

theorem readBlocks_nil (g : Gathered) : readBlocks g [] = .ok g := by
  rw [readBlocks, if_pos rfl]

theorem add_device {d : DeviceInfo} (g : Gathered) (h : DeviceInfo.NameFits d.name) :
    g.add d.bytes = .ok { g with device := some d } := by
  show (DeviceInfo.parse d.bytes).map _ = _
  rw [DeviceInfo.parse_bytes h]
  rfl

theorem add_families (g : Gathered) (fs : Families) :
    g.add fs.bytes = .ok { g with families := some fs } := by
  show (Families.parse fs.bytes).map _ = _
  rw [Families.parse_bytes]
  rfl

theorem add_plain {b : OtherBlock} (g : Gathered) (h : b.Plain) :
    g.add b.bytes = .ok { g with others := b :: g.others } := by
  simp only [OtherBlock.bytes, Gathered.add, if_neg h.not_device, if_neg h.not_families]

theorem readBlocks_others {bs : List OtherBlock} (g : Gathered) (h : ∀ b ∈ bs, b.Plain) :
    readBlocks g (bs.flatMap OtherBlock.bytes) =
      .ok { g with others := bs.reverse ++ g.others } := by
  induction bs generalizing g with
  | nil => exact readBlocks_nil g
  | cons b bs ih =>
    have plain := h b List.mem_cons_self
    rw [List.flatMap_cons, readBlocks_append (isBlock_plain plain), add_plain g plain, Except.bind,
      ih _ fun c hc => h c (List.mem_cons_of_mem _ hc)]
    simp

/-- A representable description is read back. -/
theorem parse_bytes {d : Description} (h : d.Representable) : parse d.bytes = .ok d := by
  have blocks : readBlocks .empty d.bytes =
      .ok ⟨some d.device, some d.families, d.others.reverse⟩ := by
    rw [bytes, List.append_assoc, readBlocks_append (isBlock_device _), add_device _ h.name,
      Except.bind, readBlocks_append (isBlock_families _), add_families, Except.bind,
      readBlocks_others _ h.others]
    simp [Gathered.empty]
  simp only [parse, blocks, bind, Except.bind, Gathered.finish, List.reverse_reverse]

/-! ## What is read is representable -/

/-- Nothing was gathered that could not stand in a representable description. -/
structure Gathered.Representable (g : Gathered) : Prop where
  name : ∀ d ∈ g.device, DeviceInfo.NameFits d.name
  others : ∀ b ∈ g.others, b.Plain

theorem Gathered.representable_empty : Gathered.empty.Representable :=
  ⟨by simp [empty], by simp [empty]⟩

/-- One block, one step: what was gathered stays representable. -/
theorem representable_of_add {g g' : Gathered} {block : Bytes} (hg : g.Representable)
    (hb : IsBlock block) (h : g.add block = .ok g') : g'.Representable := by
  have size := hb.length_le
  unfold Gathered.add at h
  split at h
  · rename_i length kind data
    split at h
    · obtain ⟨d, hd, rfl⟩ := map_eq_ok_iff.mp h
      refine ⟨?_, hg.others⟩
      intro d' hd'
      cases hd'
      exact DeviceInfo.fits_of_parse hd
    · rename_i not_device
      split at h
      · obtain ⟨f, -, rfl⟩ := map_eq_ok_iff.mp h
        exact ⟨hg.name, hg.others⟩
      · rename_i not_families
        cases h
        refine ⟨hg.name, ?_⟩
        intro b hb
        rcases List.mem_cons.mp hb with rfl | hb
        · refine ⟨not_device, not_families, ?_⟩
          simp only [List.length_cons] at size
          show data.length ≤ 253
          omega
        · exact hg.others b hb
  · cases h

theorem representable_of_readBlocks {g g' : Gathered} {bs : Bytes} (hg : g.Representable)
    (h : readBlocks g bs = .ok g') : g'.Representable := by
  induction g, bs using readBlocks.induct with
  | case1 g =>
    rw [readBlocks_nil] at h
    cases h
    exact hg
  | case2 g bs nonempty e hb =>
    rw [readBlocks, if_neg nonempty, hb] at h
    cases h
  | case3 g bs nonempty n bounds hb e ha =>
    rw [readBlocks, if_neg nonempty, hb] at h
    simp only [ha] at h
    cases h
  | case4 g bs nonempty n bounds hb next ha ih =>
    rw [readBlocks, if_neg nonempty, hb] at h
    simp only [ha] at h
    exact ih (representable_of_add hg (isBlock_of_blockLength hb) ha) h

theorem representable_of_parse {bs : Bytes} {d : Description} (h : parse bs = .ok d) :
    d.Representable := by
  obtain ⟨g, hg, h⟩ := bind_eq_ok_iff.mp h
  have kept := representable_of_readBlocks Gathered.representable_empty hg
  unfold Gathered.finish at h
  split at h
  · rename_i device families hd _
    cases h
    exact ⟨kept.name device hd, fun b hb => kept.others b (List.mem_reverse.mp hb)⟩
  · cases h

end Description
end KnxIp
