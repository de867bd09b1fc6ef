/-
  Descriptions as sequences of blocks.

  A block stands among others with its length in front of it, so a string of octets splits into
  blocks in at most one way. What reading has gathered after some blocks only depends on the last
  block of either known type and on all others in order (`gather`); one more block that is sound is
  one step (`add_gather`), and a block that is not ends the reading (`sound_of_add`). By induction
  over the blocks that are left, reading gathers what all of them say (`readBlocks_text_iff`).

  Main statement. `parse_blocks`: which strings are descriptions, what is read from them, that a
  block of a known type may stand anywhere among blocks of other types, and that a frame accepts a
  description only if either known type occurs once. The last follows from the lengths alone: what
  is compared with the size of the datagram leaves out all blocks that were overwritten
  (`encodedLength_eq_iff`).
-/
import KnxIp.Proofs.Frame.Acceptance
import KnxIp.Proofs.Reading.Description
import Mathlib.Data.List.Basic

namespace KnxIp

/-! ## Blocks -/

/-- A block that can stand among others: its length fits into an octet. -/
structure Block extends OtherBlock where
  length_le : data.length ≤ 253

namespace Block

/-- A block of a known type has the form of that type: device information is 54 octets long, and
families are pairs of octets, at most sixteen. -/
structure Sound (b : Block) : Prop where
  device : b.kind = DeviceInfo.blockType → b.bytes.length = 54
  families : b.kind = Families.blockType → b.bytes.length % 2 = 0 ∧ b.data.length / 2 ≤ 16

variable {b : Block}

theorem length_bytes (b : Block) : b.bytes.length = 2 + b.data.length :=
  b.toOtherBlock.length_bytes

theorem toNat_length (b : Block) : b.encodedLength.toUInt8.toNat = 2 + b.data.length := by
  have bound := b.length_le
  simp only [OtherBlock.encodedLength, Nat.toUInt8_eq, UInt8.toNat_ofNat']
  omega

theorem isBlock (b : Block) : Description.IsBlock b.bytes :=
  ⟨b.encodedLength.toUInt8, b.kind, b.data, rfl, b.toNat_length⟩

theorem exists_of_isBlock {bs : Bytes} (h : Description.IsBlock bs) :
    ∃ b : Block, b.bytes = bs := by
  obtain ⟨length, kind, data, rfl, counts⟩ := h
  have bound := length.toNat_lt
  refine ⟨⟨⟨kind, data⟩, by show data.length ≤ 253; omega⟩, ?_⟩
  have same : (2 + data.length).toUInt8 = length := by
    rw [← counts, Nat.toUInt8_eq, UInt8.ofNat_toNat]
  show (2 + data.length).toUInt8 :: kind :: data = _
  rw [same]

end Block

/-- A block of the type of device information is read exactly if it has 54 octets. -/
theorem DeviceInfo.exists_parse_block_iff {b : Block} (kind : b.kind = blockType) :
    (∃ d, parse b.bytes = .ok d) ↔ b.bytes.length = 54 := by
  have counts := b.toNat_length
  rw [b.length_bytes]
  constructor
  · rintro ⟨d, hd⟩
    unfold parse OtherBlock.bytes at hd
    split at hd
    · rename_i shape
      obtain ⟨rfl, -⟩ := List.cons.inj shape
      split at hd
      · cases hd
      · split at hd
        · cases hd
        · rename_i right
          rw [not_or, Decidable.not_not] at right
          rw [right.1] at counts
          exact counts.symm
    · cases hd
  · intro size
    have announced : b.encodedLength.toUInt8 = 54 := by
      apply UInt8.toNat_inj.mp
      rw [counts, size]
      rfl
    have fields : b.data.length = 52 := by omega
    rw [OtherBlock.bytes, announced, kind]
    -- 22 octets stand in front of the name
    generalize b.data = data at fields
    iterate 22
      obtain ⟨_, _, rfl, rest⟩ := List.length_eq_succ_iff.mp fields
      clear fields
      rename List.length _ = _ => fields
    exact ⟨_, by rw [parse, if_neg (by rw [fields]; decide), if_neg (by simp)]⟩

namespace Families

theorem length_readEntries (bs : Bytes) : (readEntries bs).length = bs.length / 2 := by
  induction bs using readEntries.induct with
  | case1 family version rest ih =>
    simp only [readEntries, List.length_cons, ih]
    omega
  | case2 bs stop =>
    rcases bs with _ | ⟨a, _ | ⟨b, rest⟩⟩
    · rfl
    · simp [readEntries]
    · exact absurd rfl (stop a b rest)

/-- Entries that were read from an even number of octets are written as they were. -/
theorem flatMap_readEntries {bs : Bytes} (even : bs.length % 2 = 0) :
    ((readEntries bs).flatMap fun e => [e.family, e.version]) = bs := by
  induction bs using readEntries.induct with
  | case1 family version rest ih =>
    simp only [List.length_cons] at even
    rw [readEntries, List.flatMap_cons, ih (by omega)]
    rfl
  | case2 bs stop =>
    rcases bs with _ | ⟨a, _ | ⟨b, rest⟩⟩
    · rfl
    · cases even
    · exact absurd rfl (stop a b rest)

theorem parse_block {b : Block} (kind : b.kind = blockType) : parse b.bytes =
    if b.data.length % 2 ≠ 0 then .error .invalidStructure
    else if h : (readEntries b.data).length ≤ maxFamilies then .ok ⟨readEntries b.data, h⟩
    else .error .payloadTooLarge := by
  have counts := b.toNat_length
  obtain ⟨small, odd⟩ := length_conditions b.encodedLength.toUInt8
  have low : ¬ b.encodedLength.toUInt8 < 2 := by
    rw [small]
    omega
  have parity : b.encodedLength.toUInt8 % 2 ≠ 0 ↔ b.data.length % 2 ≠ 0 := by
    rw [odd]
    omega
  have whole : b.data.take (b.encodedLength.toUInt8.toNat - 2) = b.data :=
    List.take_of_length_le (by omega)
  have enough : ¬ b.data.length + 2 < b.encodedLength.toUInt8.toNat := by omega
  simp only [OtherBlock.bytes, parse, kind, low, parity, whole, if_neg enough, ne_eq,
    not_true_eq_false, false_or]

/-- A block of the type of families is read exactly if it consists of pairs, at most sixteen. -/
theorem exists_parse_block_iff {b : Block} (kind : b.kind = blockType) :
    (∃ fs, parse b.bytes = .ok fs) ↔ b.bytes.length % 2 = 0 ∧ b.data.length / 2 ≤ 16 := by
  have even : b.bytes.length % 2 = 0 ↔ ¬ b.data.length % 2 ≠ 0 := by
    rw [b.length_bytes]
    omega
  rw [parse_block kind, even, ← length_readEntries]
  by_cases odd : b.data.length % 2 ≠ 0
  · simp [odd]
  · by_cases few : (readEntries b.data).length ≤ maxFamilies
    · rw [if_neg odd, dif_pos few]
      exact iff_of_true ⟨_, rfl⟩ ⟨odd, few⟩
    · rw [if_neg odd, dif_neg few]
      exact iff_of_false (by simp) fun h => few h.2

/-- What is read from a block of families is written as that block. -/
theorem bytes_of_parse {b : Block} {fs : Families} (kind : b.kind = blockType)
    (h : parse b.bytes = .ok fs) : fs.bytes = b.bytes := by
  rw [parse_block kind] at h
  split at h
  · cases h
  · rename_i even
    split at h
    · cases h
      have entries := flatMap_readEntries (Decidable.not_not.mp even)
      have size : encodedLength ⟨readEntries b.data, ‹_›⟩ = b.encodedLength := by
        rw [encodedLength, OtherBlock.encodedLength, length_readEntries]
        omega
      rw [bytes, size, entries, OtherBlock.bytes, kind]
    · cases h

theorem parse_eq_ok_iff {b : Block} {fs : Families} (kind : b.kind = blockType) :
    parse b.bytes = .ok fs ↔ b.bytes = fs.bytes := by
  constructor
  · intro h
    exact (bytes_of_parse kind h).symm
  · intro same
    rw [same, parse_bytes]

end Families

namespace Description

/-- Blocks one behind the other. -/
def text (bs : List Block) : Bytes := bs.flatMap (·.bytes)

/-- The blocks of a type. -/
def ofKind (kind : UInt8) (bs : List Block) : List Block := bs.filter (·.kind = kind)

/-- The last block of a type. -/
def last (kind : UInt8) (bs : List Block) : Option Block := (ofKind kind bs).getLast?

/-- The blocks of all types that are not known, as they are. -/
def unknown (bs : List Block) : List OtherBlock :=
  (bs.filter fun b => b.kind ≠ DeviceInfo.blockType ∧ b.kind ≠ Families.blockType).map
    (·.toOtherBlock)

variable {bs bs' : List Block} {b : Block} {kind : UInt8} {d : Description}

theorem text_cons (b : Block) (bs : List Block) : text (b :: bs) = b.bytes ++ text bs :=
  List.flatMap_cons

theorem ofKind_append (kind : UInt8) (bs bs' : List Block) :
    ofKind kind (bs ++ bs') = ofKind kind bs ++ ofKind kind bs' :=
  List.filter_append _ _

theorem mem_ofKind : b ∈ ofKind kind bs ↔ b ∈ bs ∧ b.kind = kind := by
  rw [ofKind, List.mem_filter, decide_eq_true_eq]

theorem unknown_append (bs bs' : List Block) : unknown (bs ++ bs') = unknown bs ++ unknown bs' := by
  rw [unknown, List.filter_append, List.map_append]
  rfl

theorem ofKind_singleton (h : b.kind = kind) : ofKind kind [b] = [b] :=
  List.filter_cons_of_pos (decide_eq_true h)

theorem ofKind_singleton_of_ne (h : b.kind ≠ kind) : ofKind kind [b] = [] :=
  List.filter_cons_of_neg (by simpa using h)

theorem last_snoc (bs : List Block) (h : b.kind = kind) : last kind (bs ++ [b]) = some b := by
  rw [last, ofKind_append, ofKind_singleton h, List.getLast?_concat]

theorem last_snoc_of_ne (bs : List Block) (h : b.kind ≠ kind) :
    last kind (bs ++ [b]) = last kind bs := by
  rw [last, ofKind_append, ofKind_singleton_of_ne h, List.append_nil]
  rfl

theorem mem_of_last (h : last kind bs = some b) : b ∈ bs ∧ b.kind = kind :=
  mem_ofKind.mp (List.mem_of_getLast? h)

/-- There is a last block of a type as soon as there is one. -/
theorem exists_last_iff : (∃ b, last kind bs = some b) ↔ ∃ b ∈ bs, b.kind = kind := by
  constructor
  · rintro ⟨b, h⟩
    exact ⟨b, mem_of_last h⟩
  · rintro ⟨b, hb⟩
    have some := List.ne_nil_of_mem (mem_ofKind.mpr hb)
    exact ⟨_, List.getLast?_eq_some_getLast some⟩

theorem unknown_known (h : b.kind = DeviceInfo.blockType ∨ b.kind = Families.blockType) :
    unknown [b] = [] := by
  rcases h with h | h <;> simp [unknown, h]

theorem unknown_other (hd : b.kind ≠ DeviceInfo.blockType) (hf : b.kind ≠ Families.blockType) :
    unknown [b] = [b.toOtherBlock] := by
  simp [unknown, hd, hf]

/-! ## What has been gathered -/

/-- What reading these blocks gathers, if they are sound. -/
def gather (bs : List Block) : Gathered where
  device := (last DeviceInfo.blockType bs).bind fun b => (DeviceInfo.parse b.bytes).toOption
  families := (last Families.blockType bs).bind fun b => (Families.parse b.bytes).toOption
  others := (unknown bs).reverse

theorem gather_snoc_device {bs : List Block} {b : Block} {d : DeviceInfo}
    (kind : b.kind = DeviceInfo.blockType) (h : DeviceInfo.parse b.bytes = .ok d) :
    gather (bs ++ [b]) = { gather bs with device := some d } := by
  have other : b.kind ≠ Families.blockType := by
    rw [kind]
    decide
  simp only [gather, last_snoc bs kind, last_snoc_of_ne bs other, unknown_append,
    unknown_known (.inl kind), Option.bind_some, h, Except.toOption, List.append_nil]

theorem gather_snoc_families {bs : List Block} {b : Block} {fs : Families}
    (kind : b.kind = Families.blockType) (h : Families.parse b.bytes = .ok fs) :
    gather (bs ++ [b]) = { gather bs with families := some fs } := by
  have other : b.kind ≠ DeviceInfo.blockType := by
    rw [kind]
    decide
  simp only [gather, last_snoc bs kind, last_snoc_of_ne bs other, unknown_append,
    unknown_known (.inr kind), Option.bind_some, h, Except.toOption, List.append_nil]

theorem gather_snoc_other (hd : b.kind ≠ DeviceInfo.blockType) (hf : b.kind ≠ Families.blockType) :
    gather (bs ++ [b]) = { gather bs with others := b.toOtherBlock :: (gather bs).others } := by
  simp only [gather, last_snoc_of_ne bs hd, last_snoc_of_ne bs hf, unknown_append,
    unknown_other hd hf, List.reverse_append, List.reverse_singleton, List.singleton_append]

theorem add_device_block (g : Gathered) (kind : b.kind = DeviceInfo.blockType) :
    g.add b.bytes = (DeviceInfo.parse b.bytes).map fun d => { g with device := some d } := by
  rw [OtherBlock.bytes, Gathered.add, if_pos kind]

theorem add_families_block (g : Gathered) (kind : b.kind = Families.blockType) :
    g.add b.bytes = (Families.parse b.bytes).map fun fs => { g with families := some fs } := by
  rw [OtherBlock.bytes, Gathered.add, if_neg (by rw [kind]; decide), if_pos kind]

theorem add_other_block (g : Gathered) (hd : b.kind ≠ DeviceInfo.blockType)
    (hf : b.kind ≠ Families.blockType) :
    g.add b.bytes = .ok { g with others := b.toOtherBlock :: g.others } := by
  rw [OtherBlock.bytes, Gathered.add, if_neg hd, if_neg hf]

/-- One block, one step: it is added exactly if it is sound, and then what was gathered is what the
blocks say up to this one. -/
theorem add_gather_iff {g : Gathered} :
    (gather bs).add b.bytes = .ok g ↔ b.Sound ∧ g = gather (bs ++ [b]) := by
  by_cases hd : b.kind = DeviceInfo.blockType
  · have sound : b.Sound ↔ ∃ d, DeviceInfo.parse b.bytes = .ok d := by
      rw [DeviceInfo.exists_parse_block_iff hd]
      refine ⟨fun h => h.device hd, fun h => ⟨fun _ => h, fun hf => ?_⟩⟩
      exact absurd (hd.symm.trans hf) (by decide)
    rw [add_device_block _ hd, map_eq_ok_iff, sound]
    constructor
    · rintro ⟨d, h, rfl⟩
      exact ⟨⟨d, h⟩, (gather_snoc_device hd h).symm⟩
    · rintro ⟨⟨d, h⟩, rfl⟩
      exact ⟨d, h, (gather_snoc_device hd h).symm⟩
  by_cases hf : b.kind = Families.blockType
  · have sound : b.Sound ↔ ∃ fs, Families.parse b.bytes = .ok fs := by
      rw [Families.exists_parse_block_iff hf]
      exact ⟨fun h => h.families hf, fun h => ⟨fun hd' => absurd hd' hd, fun _ => h⟩⟩
    rw [add_families_block _ hf, map_eq_ok_iff, sound]
    constructor
    · rintro ⟨fs, h, rfl⟩
      exact ⟨⟨fs, h⟩, (gather_snoc_families hf h).symm⟩
    · rintro ⟨⟨fs, h⟩, rfl⟩
      exact ⟨fs, h, (gather_snoc_families hf h).symm⟩
  · have sound : b.Sound := ⟨fun h => absurd h hd, fun h => absurd h hf⟩
    rw [add_other_block _ hd hf, gather_snoc_other hd hf, Except.ok.injEq, and_iff_right sound,
      eq_comm]

/-- Reading on through blocks, all of them sound, gathers what the blocks say up to the last. -/
theorem readBlocks_text_iff {g : Gathered} : readBlocks (gather bs) (text bs') = .ok g ↔
    (∀ b ∈ bs', b.Sound) ∧ g = gather (bs ++ bs') := by
  induction bs' generalizing bs with
  | nil =>
    rw [text, List.flatMap_nil, readBlocks_nil, Except.ok.injEq, List.append_nil, eq_comm]
    simp
  | cons b rest ih =>
    rw [text_cons, readBlocks_append b.isBlock, List.forall_mem_cons]
    constructor
    · intro h
      obtain ⟨next, added, h⟩ := bind_eq_ok_iff.mp h
      obtain ⟨sound, rfl⟩ := add_gather_iff.mp added
      obtain ⟨sounds, rfl⟩ := ih.mp h
      exact ⟨⟨sound, sounds⟩, by rw [List.append_assoc, List.singleton_append]⟩
    · rintro ⟨⟨sound, sounds⟩, rfl⟩
      refine bind_eq_ok_iff.mpr ⟨_, add_gather_iff.mpr ⟨sound, rfl⟩, ih.mpr ⟨sounds, ?_⟩⟩
      rw [List.append_assoc, List.singleton_append]

/-- What is read to the end consists of blocks. -/
theorem exists_text_of_readBlocks {g g' : Gathered} {octets : Bytes}
    (h : readBlocks g octets = .ok g') : ∃ bs, octets = text bs := by
  induction g, octets using readBlocks.induct with
  | case1 g => exact ⟨[], rfl⟩
  | case2 g octets nonempty e hb =>
    rw [readBlocks, if_neg nonempty, hb] at h
    cases h
  | case3 g octets nonempty n bounds hb e ha =>
    rw [readBlocks, if_neg nonempty, hb] at h
    simp only [ha] at h
    cases h
  | case4 g octets nonempty n bounds hb next ha ih =>
    rw [readBlocks, if_neg nonempty, hb] at h
    simp only [ha] at h
    obtain ⟨bs, rest⟩ := ih h
    obtain ⟨b, front⟩ := Block.exists_of_isBlock (isBlock_of_blockLength hb)
    refine ⟨b :: bs, ?_⟩
    rw [text_cons, front, ← rest]
    exact (List.take_append_drop n octets).symm

theorem finish_eq_ok_iff {g : Gathered} : g.finish = .ok d ↔
    g.device = some d.device ∧ g.families = some d.families ∧ d.others = g.others.reverse := by
  unfold Gathered.finish
  split
  · rename_i device families hd hf
    rw [hd, hf, Except.ok.injEq, Option.some.injEq, Option.some.injEq]
    constructor
    · rintro rfl
      exact ⟨rfl, rfl, rfl⟩
    · obtain ⟨device', families', others⟩ := d
      rintro ⟨rfl, rfl, rfl⟩
      rfl
  · rename_i missing
    constructor
    · intro h
      cases h
    · rintro ⟨hd, hf, -⟩
      exact absurd hf (missing _ _ hd)

/-! ## What is read -/

/-- What blocks say: all are sound, the last one of either known type counts, and the others are
kept in order. -/
structure Tells (bs : List Block) (d : Description) : Prop where
  sound : ∀ b ∈ bs, b.Sound
  device : ∃ b, last DeviceInfo.blockType bs = some b ∧ DeviceInfo.parse b.bytes = .ok d.device
  families : ∃ b, last Families.blockType bs = some b ∧ b.bytes = d.families.bytes
  others : d.others = unknown bs

theorem parse_text_iff : parse (text bs) = .ok d ↔ Tells bs d := by
  have start (g : Gathered) : readBlocks .empty (text bs) = .ok g ↔
      (∀ b ∈ bs, b.Sound) ∧ g = gather bs := @readBlocks_text_iff [] bs g
  have device : (gather bs).device = some d.device ↔
      ∃ b, last DeviceInfo.blockType bs = some b ∧ DeviceInfo.parse b.bytes = .ok d.device := by
    simp only [gather, Option.bind_eq_some_iff, toOption_eq_some_iff]
  have families : (gather bs).families = some d.families ↔
      ∃ b, last Families.blockType bs = some b ∧ b.bytes = d.families.bytes := by
    simp only [gather, Option.bind_eq_some_iff, toOption_eq_some_iff]
    refine exists_congr fun b => and_congr_right fun h => ?_
    exact Families.parse_eq_ok_iff (mem_of_last h).2
  have others : (gather bs).others.reverse = unknown bs := List.reverse_reverse _
  unfold parse
  rw [bind_eq_ok_iff]
  constructor
  · rintro ⟨g, read, finished⟩
    obtain ⟨sound, rfl⟩ := (start g).mp read
    obtain ⟨hd, hf, ho⟩ := finish_eq_ok_iff.mp finished
    exact ⟨sound, device.mp hd, families.mp hf, ho.trans others⟩
  · intro tells
    refine ⟨gather bs, (start _).mpr ⟨tells.sound, rfl⟩, finish_eq_ok_iff.mpr ⟨?_, ?_, ?_⟩⟩
    · exact device.mpr tells.device
    · exact families.mpr tells.families
    · exact tells.others.trans others.symm

/-- The blocks of a description. -/
theorem exists_text_of_parse {octets : Bytes} (h : parse octets = .ok d) :
    ∃ bs, octets = text bs ∧ Tells bs d := by
  obtain ⟨g, read, -⟩ := bind_eq_ok_iff.mp h
  obtain ⟨bs, rfl⟩ := exists_text_of_readBlocks read
  exact ⟨bs, rfl, parse_text_iff.mp h⟩

/-- Sound blocks among which both known types are say something. -/
theorem exists_tells_iff : (∃ d, Tells bs d) ↔ (∀ b ∈ bs, b.Sound) ∧
    (∃ b ∈ bs, b.kind = DeviceInfo.blockType) ∧ ∃ b ∈ bs, b.kind = Families.blockType := by
  rw [← exists_last_iff, ← exists_last_iff]
  constructor
  · rintro ⟨d, tells⟩
    obtain ⟨b, hb, -⟩ := tells.device
    obtain ⟨b', hb', -⟩ := tells.families
    exact ⟨tells.sound, ⟨b, hb⟩, ⟨b', hb'⟩⟩
  · rintro ⟨sound, ⟨b, hb⟩, ⟨b', hb'⟩⟩
    obtain ⟨mem, kind⟩ := mem_of_last hb
    obtain ⟨mem', kind'⟩ := mem_of_last hb'
    obtain ⟨device, hd⟩ := (DeviceInfo.exists_parse_block_iff kind).mpr ((sound b mem).device kind)
    have pairs := (sound b' mem').families kind'
    obtain ⟨families, hf⟩ := (Families.exists_parse_block_iff kind').mpr pairs
    have same := (Families.parse_eq_ok_iff kind').mp hf
    exact ⟨⟨device, families, unknown bs⟩, sound, ⟨b, hb, hd⟩, ⟨b', hb', same⟩, rfl⟩

/-! ## Moving blocks -/

/-- What blocks say only depends on which there are of each type, in order. -/
theorem Tells.congr (tells : Tells bs d) (kinds : ∀ kind, ofKind kind bs = ofKind kind bs')
    (others : unknown bs = unknown bs') : Tells bs' d := by
  have lasts (kind : UInt8) : last kind bs = last kind bs' := by
    rw [last, last, kinds]
  refine ⟨fun b hb => ?_, ?_, ?_, tells.others.trans others⟩
  · have mem : b ∈ ofKind b.kind bs' := mem_ofKind.mpr ⟨hb, rfl⟩
    rw [← kinds] at mem
    exact tells.sound b (mem_ofKind.mp mem).1
  · rw [← lasts]
    exact tells.device
  · rw [← lasts]
    exact tells.families

/-- A block of a known type may be moved past blocks of other types. -/
theorem tells_moved (front between back : List Block)
    (known : b.kind = DeviceInfo.blockType ∨ b.kind = Families.blockType)
    (differ : ∀ x ∈ between, x.kind ≠ b.kind) :
    Tells (front ++ [b] ++ between ++ back) d ↔ Tells (front ++ between ++ [b] ++ back) d := by
  have kinds (kind : UInt8) : ofKind kind (front ++ [b] ++ between ++ back) =
      ofKind kind (front ++ between ++ [b] ++ back) := by
    simp only [ofKind_append]
    by_cases same : b.kind = kind
    · have none : ofKind kind between = [] := by
        rw [ofKind, List.filter_eq_nil_iff]
        intro x hx
        rw [decide_eq_true_eq, ← same]
        exact differ x hx
      rw [none, List.append_nil, List.append_nil]
    · rw [ofKind_singleton_of_ne same, List.append_nil, List.append_nil]
  have others : unknown (front ++ [b] ++ between ++ back) =
      unknown (front ++ between ++ [b] ++ back) := by
    simp only [unknown_append, unknown_known known, List.append_nil]
  constructor
  · intro tells
    exact tells.congr kinds others
  · intro tells
    exact tells.congr (fun kind => (kinds kind).symm) others.symm

/-! ## Lengths -/

theorem text_append (bs bs' : List Block) : text (bs ++ bs') = text bs ++ text bs' :=
  List.flatMap_append

theorem length_text_singleton (b : Block) : (text [b]).length =
    (text (ofKind DeviceInfo.blockType [b])).length +
      (text (ofKind Families.blockType [b])).length +
      ((unknown [b]).flatMap OtherBlock.bytes).length := by
  by_cases hd : b.kind = DeviceInfo.blockType
  · have hf : b.kind ≠ Families.blockType := by
      rw [hd]
      decide
    rw [ofKind_singleton hd, ofKind_singleton_of_ne hf, unknown_known (.inl hd)]
    rfl
  by_cases hf : b.kind = Families.blockType
  · rw [ofKind_singleton_of_ne hd, ofKind_singleton hf, unknown_known (.inr hf)]
    simp [text]
  · rw [ofKind_singleton_of_ne hd, ofKind_singleton_of_ne hf, unknown_other hd hf]
    simp [text]

/-- The octets of blocks by their types. -/
theorem length_text (bs : List Block) : (text bs).length =
    (text (ofKind DeviceInfo.blockType bs)).length + (text (ofKind Families.blockType bs)).length +
      ((unknown bs).flatMap OtherBlock.bytes).length := by
  induction bs with
  | nil => rfl
  | cons b bs ih =>
    have first := length_text_singleton b
    rw [← List.singleton_append]
    simp only [text_append, ofKind_append, unknown_append, List.flatMap_append, List.length_append]
    omega

theorem length_text_of_size {size : Nat} (h : ∀ b ∈ bs, b.bytes.length = size) :
    (text bs).length = size * bs.length := by
  induction bs with
  | nil => rfl
  | cons b bs ih =>
    obtain ⟨first, rest⟩ := List.forall_mem_cons.mp h
    rw [text_cons, List.length_append, first, ih rest, List.length_cons, Nat.mul_add, Nat.mul_one,
      Nat.add_comm]

theorem two_mul_le_length_text (bs : List Block) : 2 * bs.length ≤ (text bs).length := by
  induction bs with
  | nil => exact Nat.le_refl 0
  | cons b bs ih =>
    rw [text_cons, List.length_append, b.length_bytes, List.length_cons]
    omega

/-- What blocks say takes as many octets as they do exactly if either known type occurs once. -/
theorem encodedLength_eq_iff (tells : Tells bs d) : d.encodedLength = (text bs).length ↔
    (ofKind DeviceInfo.blockType bs).length = 1 ∧ (ofKind Families.blockType bs).length = 1 := by
  obtain ⟨device, hd, -⟩ := tells.device
  obtain ⟨families, hf, same⟩ := tells.families
  have devices : (text (ofKind DeviceInfo.blockType bs)).length =
      54 * (ofKind DeviceInfo.blockType bs).length := by
    refine length_text_of_size fun b hb => ?_
    obtain ⟨mem, kind⟩ := mem_ofKind.mp hb
    exact (tells.sound b mem).device kind
  obtain ⟨before, all⟩ := List.getLast?_eq_some_iff.mp hf
  have counted : families.bytes.length = d.families.encodedLength := by
    rw [same, d.families.length_bytes]
  have others : ((unknown bs).flatMap OtherBlock.bytes).length =
      d.others.foldr (·.encodedLength + ·) 0 := by
    rw [← tells.others, length_others]
  have least := two_mul_le_length_text before
  have some : 0 < (ofKind DeviceInfo.blockType bs).length :=
    List.length_pos_of_mem (List.mem_of_getLast? hd)
  have whole := length_text bs
  have alone : before.length = 0 → (text before).length = 0 := by
    intro none
    rw [List.eq_nil_of_length_eq_zero none]
    rfl
  -- families that are overwritten, and all device blocks but one, are octets that do not come back
  rw [all, text_append, text_cons, List.length_append, List.length_append] at whole
  rw [all, List.length_append, List.length_singleton, encodedLength, DeviceInfo.size]
  have nothing : (text []).length = 0 := rfl
  constructor
  · intro same
    omega
  · rintro ⟨one, none⟩
    have := alone (by omega)
    omega

/-! ## Frames with a description -/

/-- Octets that are sound blocks, either known type once. -/
def OneOfEach (octets : Bytes) : Prop :=
  ∃ bs, octets = text bs ∧ (∀ b ∈ bs, b.Sound) ∧ (ofKind DeviceInfo.blockType bs).length = 1 ∧
    (ofKind Families.blockType bs).length = 1

theorem oneOfEach_iff {octets : Bytes} :
    OneOfEach octets ↔ ∃ d, parse octets = .ok d ∧ d.encodedLength = octets.length := by
  constructor
  · rintro ⟨bs, rfl, sound, device, families⟩
    have some {kind : UInt8} (one : (ofKind kind bs).length = 1) : ∃ b ∈ bs, b.kind = kind := by
      obtain ⟨b, hb⟩ := List.length_eq_one_iff.mp one
      exact ⟨b, mem_ofKind.mp (by rw [hb]; exact List.mem_singleton_self b)⟩
    obtain ⟨d, tells⟩ := exists_tells_iff.mpr ⟨sound, some device, some families⟩
    exact ⟨d, parse_text_iff.mpr tells, (encodedLength_eq_iff tells).mpr ⟨device, families⟩⟩
  · rintro ⟨d, hd, len⟩
    obtain ⟨bs, rfl, tells⟩ := exists_text_of_parse hd
    exact ⟨bs, rfl, tells.sound, (encodedLength_eq_iff tells).mp len⟩

theorem exists_decode_descriptionResponse_iff {datagram : Bytes} {h : Header}
    (hh : Header.parse datagram = .ok h) (total : h.totalLength.toNat = datagram.length)
    (service : h.service = .descriptionResponse) :
    (∃ f, Frame.decode datagram = .ok f) ↔ OneOfEach (datagram.drop 6) := by
  rw [Frame.exists_decode_iff hh total, service, Header.size, oneOfEach_iff]
  constructor
  · rintro ⟨b, hb, len⟩
    obtain ⟨d, hd, rfl⟩ := map_eq_ok_iff.mp (Body.framed_eq_ok_iff.mp hb)
    exact ⟨d, hd, len⟩
  · rintro ⟨d, hd, len⟩
    exact ⟨_, Body.framed_eq_ok_iff.mpr (map_eq_ok_iff.mpr ⟨d, hd, rfl⟩), len⟩

theorem exists_decode_searchResponse_iff {datagram : Bytes} {h : Header}
    (hh : Header.parse datagram = .ok h) (total : h.totalLength.toNat = datagram.length)
    (service : h.service = .searchResponse) : (∃ f, Frame.decode datagram = .ok f) ↔
      (∃ e, Endpoint.parse (datagram.drop 6) = .ok e) ∧ OneOfEach (datagram.drop 14) := by
  have behind : (datagram.drop 6).drop 8 = datagram.drop 14 := List.drop_drop
  have left : ((datagram.drop 6).drop 8).length = (datagram.drop 6).length - 8 := List.length_drop
  rw [Frame.exists_decode_iff hh total, service, Header.size, ← behind, oneOfEach_iff, left]
  constructor
  · rintro ⟨b, hb, len⟩
    obtain ⟨e, he, hb⟩ := bind_eq_ok_iff.mp (Body.framed_eq_ok_iff.mp hb)
    obtain ⟨d, hd, hb⟩ := bind_eq_ok_iff.mp hb
    cases hb
    refine ⟨⟨e, he⟩, d, hd, ?_⟩
    rw [← len, Body.encodedLength]
    omega
  · rintro ⟨⟨e, he⟩, d, hd, len⟩
    have room : 8 ≤ (datagram.drop 6).length := Endpoint.size_le_of_parse he
    refine ⟨.searchResponse e d, Body.framed_eq_ok_iff.mpr ?_, ?_⟩
    · exact bind_eq_ok_iff.mpr ⟨e, he, bind_eq_ok_iff.mpr ⟨d, hd, rfl⟩⟩
    · rw [Body.encodedLength, len]
      omega

/-- Octets are a description exactly if they split into sound blocks and both known types are among
these. The description is what the last block of either known type tells, and all other blocks in
order; so a block of a known type may be moved past blocks of other types. A datagram with a good
header that announces its size is the frame of a search or description response exactly if its
blocks are sound and either known type occurs once, in a search response behind an endpoint. -/
theorem parse_blocks :
    (∀ octets : Bytes, (∃ d, parse octets = .ok d) ↔
      ∃ bs, octets = text bs ∧ (∀ b ∈ bs, b.Sound) ∧
        (∃ b ∈ bs, b.kind = DeviceInfo.blockType) ∧ ∃ b ∈ bs, b.kind = Families.blockType) ∧
    (∀ (bs : List Block) (d : Description), parse (text bs) = .ok d ↔ Tells bs d) ∧
    (∀ (front between back : List Block) (b : Block) (d : Description),
      b.kind = DeviceInfo.blockType ∨ b.kind = Families.blockType →
      (∀ x ∈ between, x.kind ≠ b.kind) →
      (parse (text (front ++ [b] ++ between ++ back)) = .ok d ↔
        parse (text (front ++ between ++ [b] ++ back)) = .ok d)) ∧
    ∀ (datagram : Bytes) (h : Header), Header.parse datagram = .ok h →
      h.totalLength.toNat = datagram.length →
      (h.service = .descriptionResponse →
        ((∃ f, Frame.decode datagram = .ok f) ↔ OneOfEach (datagram.drop 6))) ∧
      (h.service = .searchResponse →
        ((∃ f, Frame.decode datagram = .ok f) ↔
          (∃ e, Endpoint.parse (datagram.drop 6) = .ok e) ∧ OneOfEach (datagram.drop 14))) := by
  refine ⟨?_, fun bs d => parse_text_iff, ?_, ?_⟩
  · intro octets
    constructor
    · rintro ⟨d, hd⟩
      obtain ⟨bs, rfl, tells⟩ := exists_text_of_parse hd
      exact ⟨bs, rfl, exists_tells_iff.mp ⟨d, tells⟩⟩
    · rintro ⟨bs, rfl, sound, known⟩
      obtain ⟨d, tells⟩ := exists_tells_iff.mpr ⟨sound, known⟩
      exact ⟨d, parse_text_iff.mpr tells⟩
  · intro front between back b d known differ
    rw [parse_text_iff, parse_text_iff]
    exact tells_moved front between back known differ
  · intro datagram h hh total
    exact ⟨exists_decode_descriptionResponse_iff hh total,
      exists_decode_searchResponse_iff hh total⟩

/-- A device without a name. -/
def deviceBlock : Block := ⟨⟨DeviceInfo.blockType, List.replicate 52 0⟩, by decide⟩

/-- A block of the manufacturer, and one family. -/
def furtherBlocks : List Block :=
  [⟨⟨0xFE, [0x00, 0x2A]⟩, by decide⟩, ⟨⟨Families.blockType, [0x02, 1]⟩, by decide⟩]

/-- The device behind the other blocks, as it describes itself. -/
def describedLast : Bytes := [6, 0x10, 2, 4, 0, 68] ++ text (furtherBlocks ++ [deviceBlock])

/-- The same blocks in the answer to a search. -/
def foundLast : Bytes :=
  [6, 0x10, 2, 2, 0, 76, 8, 1, 192, 168, 1, 2, 0x0E, 0x57] ++ text (furtherBlocks ++ [deviceBlock])

theorem parse_blocks_device_last :
    (deviceBlock.kind = DeviceInfo.blockType ∨ deviceBlock.kind = Families.blockType) ∧
    (∀ x ∈ furtherBlocks, x.kind ≠ deviceBlock.kind) ∧
    (∀ d, parse (text (deviceBlock :: furtherBlocks)) = .ok d ↔
      parse (text (furtherBlocks ++ [deviceBlock])) = .ok d) ∧
    Header.parse describedLast = .ok ⟨.descriptionResponse, 68⟩ ∧
    (68 : UInt16).toNat = describedLast.length ∧
    ((∃ f, Frame.decode describedLast = .ok f) ↔ OneOfEach (describedLast.drop 6)) ∧
    Header.parse foundLast = .ok ⟨.searchResponse, 76⟩ ∧
    (76 : UInt16).toNat = foundLast.length ∧
    ((∃ f, Frame.decode foundLast = .ok f) ↔
      (∃ e, Endpoint.parse (foundLast.drop 6) = .ok e) ∧ OneOfEach (foundLast.drop 14)) := by
  have known : deviceBlock.kind = DeviceInfo.blockType ∨ deviceBlock.kind = Families.blockType :=
    .inl rfl
  have differ : ∀ x ∈ furtherBlocks, x.kind ≠ deviceBlock.kind := by decide
  refine ⟨known, differ, fun d => ?_, rfl, rfl, ?_, rfl, rfl, ?_⟩
  · exact parse_blocks.2.2.1 [] furtherBlocks [] deviceBlock d known differ
  · exact (parse_blocks.2.2.2 describedLast ⟨.descriptionResponse, 68⟩ rfl rfl).1 rfl
  · exact (parse_blocks.2.2.2 foundLast ⟨.searchResponse, 76⟩ rfl rfl).2 rfl

end Description

end KnxIp
