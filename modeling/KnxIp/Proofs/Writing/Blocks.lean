/-
  Writing headers, endpoints, the small blocks of connections, and descriptions: each writer writes
  what the `encode` of its block says.

  A name is written over thirty octets that were made zero before, so that nothing is left of what
  was there. The loop over the other blocks of a description is stepped by induction on them
  (`Description.writesAt_others`).
-/
import KnxIp.Proofs.Description.RoundTrip
import KnxIp.Proofs.Writing.Writes
import KnxIp.Writing.Blocks

namespace KnxIp

open Body (fit)
open Writing

/-! ## Blocks of fixed size -/

theorem Header.writes_write (h : Header) : Writes h.write h.encode := by
  refine writes_fit h.length_bytes ?_
  show PutsAt _ 0 ([6] ++ ([0x10] ++ (wordBytes h.service.code ++ (wordBytes h.totalLength ++ []))))
    size
  exact PutsAt.bind (putsAt_put rfl _) <|
    PutsAt.bind (putsAt_put rfl _) <|
    PutsAt.bind (putsAt_copy rfl rfl) <|
    PutsAt.bind (putsAt_copy rfl rfl) <|
    putsAt_pure _ _

theorem Endpoint.writes_write (e : Endpoint) : Writes e.write e.encode := by
  refine writes_fit e.length_bytes ?_
  show PutsAt _ 0 ([8] ++ ([1] ++ (e.ip.bytes ++ (wordBytes e.port ++ [])))) size
  exact PutsAt.bind (putsAt_put rfl _) <|
    PutsAt.bind (putsAt_put rfl _) <|
    PutsAt.bind (putsAt_copy rfl rfl) <|
    PutsAt.bind (putsAt_copy rfl rfl) <|
    putsAt_pure _ _

theorem ConnectionKind.writes_write (k : ConnectionKind) : Writes k.write k.encode := by
  refine @writes_fit k.bytes 4 _ rfl ?_
  exact PutsAt.bind (putsAt_put rfl _) <|
    PutsAt.bind (putsAt_put rfl _) <|
    PutsAt.bind (putsAt_put rfl _) <|
    PutsAt.bind (putsAt_put rfl _) <|
    putsAt_pure _ _

theorem AssignedAddress.writes_write (a : AssignedAddress) : Writes a.write a.encode := by
  refine @writes_fit a.bytes 4 _ rfl ?_
  show PutsAt _ 0 ([4] ++ ([a.connectionType] ++ (a.address.bytes ++ []))) 4
  exact PutsAt.bind (putsAt_put rfl _) <|
    PutsAt.bind (putsAt_put rfl _) <|
    PutsAt.bind (putsAt_copy rfl rfl) <|
    putsAt_pure _ _

theorem TunnelHeader.writes_write (h : TunnelHeader) : Writes h.write h.encode := by
  refine @writes_fit h.bytes 4 _ rfl ?_
  exact PutsAt.bind (putsAt_put rfl _) <|
    PutsAt.bind (putsAt_put rfl _) <|
    PutsAt.bind (putsAt_put rfl _) <|
    PutsAt.bind (putsAt_put rfl _) <|
    putsAt_pure _ _

/-! ## Device information -/

namespace DeviceInfo

theorem run_writeName (name : String) {part : Bytes} (thirty : part.length = nameSize) :
    (writeName name).run part = .ok () (nameBytes name) := by
  have cleared : (fill 0).run part = .ok () (List.replicate nameSize 0) := by
    rw [run_fill, thirty]
  rw [writeName, run_bind_of_ok cleared, run_sideBySide, List.length_replicate, ← List.map_take,
    overlay, List.drop_replicate]
  rfl

theorem encode_eq_fit (d : DeviceInfo) : d.encode = fit d.bytes := by
  funext room
  rw [fit, d.length_bytes]
  rfl

theorem writes_write (d : DeviceInfo) : Writes d.write d.encode := by
  have thirty := length_nameBytes d.name
  have named : PutsAt (within 24 (24 + nameSize) (writeName d.name)) 24 (nameBytes d.name) () :=
    putsAt_within rfl (by rw [thirty]) fun part same => run_writeName d.name (same.trans thirty)
  have parts : d.bytes = [54] ++ ([blockType] ++ ([d.medium] ++ ([d.status] ++ (d.address.bytes ++
      (wordBytes d.project ++ (d.serial.bytes ++ (d.multicast.bytes ++ (d.hardware.bytes ++
        (nameBytes d.name ++ []))))))))) := by
    simp [bytes]
  rw [encode_eq_fit]
  refine writes_fit d.length_bytes ?_
  rw [parts]
  exact PutsAt.bind (putsAt_put rfl _) <|
    PutsAt.bind (putsAt_put rfl _) <|
    PutsAt.bind (putsAt_put rfl _) <|
    PutsAt.bind (putsAt_put rfl _) <|
    PutsAt.bind (putsAt_copy rfl rfl) <|
    PutsAt.bind (putsAt_copy rfl rfl) <|
    PutsAt.bind (putsAt_copy rfl rfl) <|
    PutsAt.bind (putsAt_copy rfl rfl) <|
    PutsAt.bind (putsAt_copy rfl rfl) <|
    named.bind (putsAt_pure _ _)

end DeviceInfo

/-! ## Families -/

namespace Families

theorem overPairs_eq (es : List FamilyVersion) {part : Bytes}
    (size : part.length = 2 * es.length) :
    overPairs es part = es.flatMap fun e => [e.family, e.version] := by
  induction es generalizing part with
  | nil => exact List.eq_nil_of_length_eq_zero size
  | cons e es ih =>
    rw [List.length_cons, Nat.mul_add] at size
    obtain ⟨_, tail, rfl⟩ := List.exists_cons_of_length_eq_add_one size
    obtain ⟨_, part, rfl⟩ := List.exists_cons_of_length_eq_add_one (Nat.succ.inj size)
    rw [overPairs, ih (Nat.succ.inj (Nat.succ.inj size))]
    rfl

theorem encode_eq_fit (fs : Families) : fs.encode = fit fs.bytes := by
  funext room
  rw [fit, fs.length_bytes]
  rfl

theorem writes_write (fs : Families) : Writes fs.write fs.encode := by
  have size := length_entries fs.entries
  have entries : PutsAt (Writing.within 2 fs.encodedLength (modify (overPairs fs.entries))) 2
      (fs.entries.flatMap fun e => [e.family, e.version]) () := by
    refine putsAt_within rfl (by rw [size]; rfl) fun part same => ?_
    show EStateM.Result.ok () (overPairs fs.entries part) = _
    rw [overPairs_eq fs.entries (same.trans size)]
  rw [encode_eq_fit]
  refine writes_fit fs.length_bytes ?_
  rw [bytes, ← List.append_nil (fs.entries.flatMap _)]
  exact PutsAt.bind (putsAt_put rfl _) <|
    PutsAt.bind (putsAt_put rfl _) <|
    entries.bind (putsAt_pure _ _)

end Families

/-! ## Descriptions -/

namespace OtherBlock

theorem encode_eq_fit (b : OtherBlock) : b.encode = fun room =>
    if 255 < b.encodedLength then .error .payloadTooLarge else fit b.bytes room := by
  funext room
  rw [fit, b.length_bytes]
  rfl

theorem writes_write (b : OtherBlock) : Writes b.write b.encode := by
  have parts : b.bytes = [b.encodedLength.toUInt8] ++ ([b.kind] ++ (b.data ++ [])) := by
    rw [List.append_nil]
    rfl
  rw [encode_eq_fit]
  refine writes_refuse (writes_fit b.length_bytes ?_)
  rw [parts]
  exact PutsAt.bind (putsAt_put rfl _) <|
    PutsAt.bind (putsAt_put rfl _) <|
    PutsAt.bind (putsAt_copy rfl rfl) <|
    putsAt_pure _ _

theorem encode_eq_ok_iff {b : OtherBlock} {room : Nat} {bs : Bytes} : b.encode room = .ok bs ↔
    bs = b.bytes ∧ b.bytes.length ≤ room ∧ b.data.length ≤ 253 := by
  have limit : 255 < b.encodedLength ↔ 253 < b.data.length := by
    unfold encodedLength
    omega
  rw [encode_eq_fit]
  by_cases large : 255 < b.encodedLength
  · simp only [if_pos large]
    constructor
    · intro h
      cases h
    · rintro ⟨-, -, short⟩
      exact absurd (limit.mp large) (Nat.not_lt.mpr short)
  · simp only [if_neg large, fit_eq_ok_iff]
    rw [limit, Nat.not_lt] at large
    rw [and_iff_left large]

end OtherBlock

namespace Description

theorem writesAt_others (bs : List OtherBlock) (offset : Nat) :
    WritesAt (writeOthers offset bs) offset (encodeOthers · bs) := by
  induction bs generalizing offset with
  | nil => exact writesAt_pure offset
  | cons b bs ih => exact (b.writes_write.append offset).bind ih

theorem encode_eq_followedBy (d : Description) : d.encode =
    followedBy d.device.encode (followedBy d.families.encode (encodeOthers · d.others)) := by
  funext room
  unfold encode followedBy
  refine congrArg _ (funext fun device => ?_)
  rw [bind_assoc]
  refine congrArg _ (funext fun families => ?_)
  rw [bind_assoc]
  refine congrArg _ (funext fun others => ?_)
  rw [pure_bind, List.append_assoc]

theorem encodeOthers_eq_ok_iff {bs : List OtherBlock} {room : Nat} {out : Bytes} :
    encodeOthers room bs = .ok out ↔ out = bs.flatMap OtherBlock.bytes ∧
      (bs.flatMap OtherBlock.bytes).length ≤ room ∧ ∀ b ∈ bs, b.data.length ≤ 253 := by
  constructor
  · intro h
    induction bs generalizing room out with
    | nil =>
      cases h
      exact ⟨rfl, Nat.zero_le _, by simp⟩
    | cons b bs ih =>
      obtain ⟨front, rest, first, others, rfl⟩ :=
        (@followedBy_eq_ok_iff b.encode (encodeOthers · bs) room out).mp h
      obtain ⟨rfl, room', short⟩ := OtherBlock.encode_eq_ok_iff.mp first
      obtain ⟨rfl, room'', shorts⟩ := ih others
      refine ⟨rfl, ?_, List.forall_mem_cons.mpr ⟨short, shorts⟩⟩
      rw [List.flatMap_cons, List.length_append]
      omega
  · rintro ⟨rfl, room', short⟩
    exact encodeOthers_eq_ok short room'

/-- A description is written exactly if there is room for it and no other block is too long. -/
theorem encode_eq_ok_iff {d : Description} {room : Nat} {bs : Bytes} : d.encode room = .ok bs ↔
    bs = d.bytes ∧ d.encodedLength ≤ room ∧ ∀ b ∈ d.others, b.data.length ≤ 253 := by
  constructor
  · intro h
    rw [encode_eq_followedBy, d.device.encode_eq_fit, d.families.encode_eq_fit] at h
    obtain ⟨_, _, device, behind, rfl⟩ := followedBy_eq_ok_iff.mp h
    obtain ⟨rfl, room₁⟩ := fit_eq_ok_iff.mp device
    obtain ⟨_, _, families, others, rfl⟩ := followedBy_eq_ok_iff.mp behind
    obtain ⟨rfl, room₂⟩ := fit_eq_ok_iff.mp families
    obtain ⟨rfl, room₃, short⟩ := encodeOthers_eq_ok_iff.mp others
    refine ⟨(List.append_assoc _ _ _).symm, ?_, short⟩
    rw [← d.length_bytes, bytes, List.length_append, List.length_append]
    omega
  · rintro ⟨rfl, room', short⟩
    exact encode_eq_ok short room'

theorem writes_write (d : Description) : Writes d.write d.encode := by
  rw [encode_eq_followedBy]
  exact d.device.writes_write.bind fun offset =>
    (d.families.writes_write.append offset).bind (writesAt_others d.others)

end Description
end KnxIp
