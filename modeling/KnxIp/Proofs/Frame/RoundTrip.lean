/-
  Frames written and read back.

  Reading a datagram is reading its header and then its body, with two comparisons of lengths
  (`decode_eq_ok_iff`). So the frame of a representable body of at most 506 octets is written, in
  6 octets more than the body, and read back (`bytes_ofBody`, `decode_bytes_ofBody`).

  Main statements. `decode_of_written`: for each of the fifteen service types, the frame of a
  body that can be said on the wire is written and read back, and a frame with a telegram always
  is. `written_of_decode`: what is read from a datagram of at most 512 octets is the frame of its
  body, and writing it again gives a datagram of the same length with the same meaning.
-/
import KnxIp.Frame.Basic
import KnxIp.Proofs.Frame.Body

namespace KnxIp.Frame

open Body (framed framed_eq_ok_iff)

/-- A datagram is read as a frame exactly if the header is read, announces the size of the
datagram, and a body is read that would take all octets behind the header. -/
theorem decode_eq_ok_iff {bs : Bytes} {f : Frame} :
    decode bs = .ok f ↔ Header.parse bs = .ok f.header ∧
      f.header.totalLength.toNat = bs.length ∧
      Body.parse f.header.service (bs.drop Header.size) = .ok f.body ∧
      f.body.encodedLength = (bs.drop Header.size).length := by
  unfold decode
  rw [bind_eq_ok_iff]
  constructor
  · rintro ⟨header, hh, h⟩
    split at h
    · cases h
    · rename_i total
      obtain ⟨body, hb, h⟩ := bind_eq_ok_iff.mp h
      split at h
      · cases h
      · rename_i len
        cases h
        exact ⟨framed_eq_ok_iff.mp hh, Decidable.not_not.mp total, hb, Decidable.not_not.mp len⟩
  · rintro ⟨hh, total, hb, len⟩
    refine ⟨f.header, framed_eq_ok_iff.mpr hh, ?_⟩
    rw [if_neg (not_not_intro total), bind_eq_ok_iff]
    refine ⟨f.body, hb, ?_⟩
    rw [if_neg (not_not_intro len)]
    rfl

/-- The total length has sixteen bits, whatever the length of the body. -/
theorem totalLength_ofBody_eq_mod (b : Body) :
    (ofBody b).header.totalLength.toNat = (Header.size + b.encodedLength) % 65536 := by
  simp only [ofBody, Header.forBody, Header.size, UInt16.toNat_add, UInt16.reduceToNat,
    Nat.toUInt16_eq, UInt16.toNat_ofNat']
  omega

theorem totalLength_ofBody {b : Body} (short : b.encodedLength ≤ 506) :
    (ofBody b).header.totalLength.toNat = 6 + b.encodedLength := by
  rw [totalLength_ofBody_eq_mod, Header.size]
  omega

theorem eq_ofBody {f : Frame} (service : f.body.service = f.header.service)
    (total : f.header.totalLength.toNat = 6 + f.body.encodedLength)
    (short : f.body.encodedLength ≤ 506) : f = ofBody f.body := by
  have announced : f.header.totalLength = (ofBody f.body).header.totalLength := by
    apply UInt16.toNat_inj.mp
    rw [total, totalLength_ofBody short]
  obtain ⟨⟨_, _⟩, body⟩ := f
  simp only at service announced
  rw [announced, ← service]
  rfl

theorem bytes_ofBody {b : Body} (h : b.Representable) (short : b.encodedLength ≤ 506) :
    (ofBody b).bytes = .ok ((ofBody b).header.bytes ++ b.bytes) := by
  have room : ¬ maxFrameSize < Header.size := by decide
  have body : b.encode (maxFrameSize - Header.size) = .ok b.bytes :=
    Body.encode_eq_ok h (by unfold maxFrameSize Header.size; omega)
  have fits : ¬ maxFrameSize < Header.size + b.encodedLength := by
    unfold maxFrameSize Header.size
    omega
  simp only [bytes, encode, if_neg room, ofBody, body, bind, Except.bind, b.length_bytes,
    if_neg fits]
  rfl

theorem decode_bytes_ofBody {b : Body} (h : b.Representable) (short : b.encodedLength ≤ 506) :
    decode ((ofBody b).header.bytes ++ b.bytes) = .ok (ofBody b) := by
  have behind : ((ofBody b).header.bytes ++ b.bytes).drop Header.size = b.bytes :=
    List.drop_left' rfl
  rw [decode_eq_ok_iff, behind]
  refine ⟨Header.parse_bytes_append _ _, ?_, Body.parse_bytes h, b.length_bytes.symm⟩
  rw [totalLength_ofBody short, List.length_append, Header.length_bytes, b.length_bytes,
    Header.size]

theorem telegram_le (t : Telegram) : t.encodedLength ≤ 329 := by
  have info := t.info.property
  have npdu := t.npduLength.toNat_lt
  unfold maxAdditionalInfo at info
  unfold Telegram.Content.encodedLength
  omega

/-- The frame of a body that can be said on the wire in at most 506 octets is written and read
back, header included; so is the frame of every tunneled and every routed telegram. -/
theorem decode_of_written :
    (∀ b : Body, b.Representable → b.encodedLength ≤ 506 →
      ∃ bs, (ofBody b).bytes = .ok bs ∧ decode bs = .ok (ofBody b)) ∧
    ∀ t : Telegram,
      (∀ header, ∃ bs, (ofBody (.tunnelingRequest header t)).bytes = .ok bs ∧
        decode bs = .ok (ofBody (.tunnelingRequest header t))) ∧
      ∃ bs, (ofBody (.routingIndication t)).bytes = .ok bs ∧
        decode bs = .ok (ofBody (.routingIndication t)) := by
  have all (b : Body) (h : b.Representable) (short : b.encodedLength ≤ 506) :
      ∃ bs, (ofBody b).bytes = .ok bs ∧ decode bs = .ok (ofBody b) :=
    ⟨_, bytes_ofBody h short, decode_bytes_ofBody h short⟩
  refine ⟨all, fun t => ⟨fun header => all _ trivial ?_, all _ trivial ?_⟩⟩
  · have := telegram_le t
    show 4 + t.encodedLength ≤ 506
    omega
  · have := telegram_le t
    show t.encodedLength ≤ 506
    omega

/-- A router with a name beyond ASCII, two families and a block of the manufacturer. -/
def routerDescription : Description where
  device :=
    { medium := 0x02, status := 0x01, address := ⟨0x1100⟩, project := 7
      serial := ⟨0, 1, 2, 3, 4, 5⟩, multicast := ⟨224, 0, 23, 12⟩
      hardware := ⟨0, 0x24, 0x6D, 0, 0, 1⟩, name := "Tür im Flur" }
  families := ⟨[⟨0x02, 1⟩, ⟨0x05, 2⟩], by decide⟩
  others := [⟨0xFE, [0x00, 0x2A]⟩]

/-- The router answers a search. -/
theorem decode_of_written_router :
    (Body.searchResponse ⟨⟨192, 168, 1, 2⟩, 3671⟩ routerDescription).Representable ∧
      (Body.searchResponse ⟨⟨192, 168, 1, 2⟩, 3671⟩ routerDescription).encodedLength ≤ 506 ∧
      ∃ bs, (ofBody (.searchResponse ⟨⟨192, 168, 1, 2⟩, 3671⟩ routerDescription)).bytes = .ok bs ∧
        decode bs = .ok (ofBody (.searchResponse ⟨⟨192, 168, 1, 2⟩, 3671⟩ routerDescription)) := by
  have representable : routerDescription.Representable := by
    refine ⟨⟨by decide, by simp [routerDescription]⟩, fun b hb => ?_⟩
    obtain rfl : b = ⟨0xFE, [0x00, 0x2A]⟩ := List.mem_singleton.mp hb
    exact ⟨by decide, by decide, by decide⟩
  have short : (Body.searchResponse ⟨⟨192, 168, 1, 2⟩, 3671⟩ routerDescription).encodedLength ≤
      506 := by decide
  exact ⟨representable, short, decode_of_written.1 _ representable short⟩

/-- What is read from a datagram of at most 512 octets is the frame of its body; it is written in
as many octets, and these are read as the same frame. -/
theorem written_of_decode {bs : Bytes} {f : Frame} (h : decode bs = .ok f)
    (short : bs.length ≤ 512) :
    f = ofBody f.body ∧
      ∃ again, f.bytes = .ok again ∧ again.length = bs.length ∧ decode again = .ok f := by
  obtain ⟨hh, total, hb, len⟩ := decode_eq_ok_iff.mp h
  obtain ⟨service, representable⟩ := Body.service_and_representable_of_parse hb
  have size : bs.length = 6 + f.body.encodedLength := by
    have := Header.size_le_of_parse hh
    rw [len, List.length_drop]
    unfold Header.size at this ⊢
    omega
  have fits : f.body.encodedLength ≤ 506 := by omega
  have normal : f = ofBody f.body := eq_ofBody service (total.trans size) fits
  refine ⟨normal, (ofBody f.body).header.bytes ++ f.body.bytes, ?_, ?_, ?_⟩
  · conv => lhs; rw [normal]
    exact bytes_ofBody representable fits
  · rw [List.length_append, Header.length_bytes, f.body.length_bytes, size, Header.size]
  · rw [decode_bytes_ofBody representable fits, ← normal]

/-- A connection state request whose reserved octet is set is written with that octet zero. -/
theorem written_of_decode_reserved_octet :
    ∃ f, decode [6, 0x10, 2, 7, 0, 16, 5, 0xFF, 8, 1, 192, 168, 1, 100, 0x0E, 0x57] = .ok f ∧
      f.bytes = .ok [6, 0x10, 2, 7, 0, 16, 5, 0, 8, 1, 192, 168, 1, 100, 0x0E, 0x57] ∧
      f = ofBody f.body ∧
      ∃ again, f.bytes = .ok again ∧ again.length = 16 ∧ decode again = .ok f :=
  ⟨_, rfl, rfl, @written_of_decode
    [6, 0x10, 2, 7, 0, 16, 5, 0xFF, 8, 1, 192, 168, 1, 100, 0x0E, 0x57] _ rfl (by decide)⟩

end KnxIp.Frame
