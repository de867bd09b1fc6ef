/-
  Which datagrams with a telegram are read as frames.

  Behind a header that announces the size of the datagram stands a telegram, in a tunneling
  request after the header of the tunnel. The comparison of lengths at the end of reading is made
  with the telegram as it would be written, not with the octets that were read. So a telegram
  that appends a value below 64 is taken for one with an octet too many behind it, and its frame
  is refused; the frame of every other telegram that can be read is accepted
  (`decode_telegram_iff`).
-/
import KnxIp.Proofs.Frame.RoundTrip
import KnxIp.Proofs.Telegram.Forms

namespace KnxIp.Frame

open Telegram (AppendsSmallValue)

/-- Behind a good header, a frame is read exactly if a body is read that takes all octets. -/
theorem exists_decode_iff {bs : Bytes} {h : Header} (hh : Header.parse bs = .ok h)
    (total : h.totalLength.toNat = bs.length) :
    (∃ f, decode bs = .ok f) ↔ ∃ b, Body.parse h.service (bs.drop Header.size) = .ok b ∧
      b.encodedLength = (bs.drop Header.size).length := by
  constructor
  · rintro ⟨f, hf⟩
    obtain ⟨hh', -, hb, len⟩ := decode_eq_ok_iff.mp hf
    obtain rfl : h = f.header := by
      rw [hh] at hh'
      exact Except.ok.inj hh'
    exact ⟨f.body, hb, len⟩
  · rintro ⟨b, hb, len⟩
    exact ⟨⟨h, b⟩, decode_eq_ok_iff.mpr ⟨hh, total, hb, len⟩⟩

theorem exists_decode_tunnelingRequest_iff {bs : Bytes} {h : Header}
    (hh : Header.parse bs = .ok h) (total : h.totalLength.toNat = bs.length)
    (service : h.service = .tunnelingRequest) :
    (∃ f, decode bs = .ok f) ↔ (∃ c, TunnelHeader.parse (bs.drop 6) = .ok c) ∧
      ∃ t, Telegram.parse (bs.drop 10) = .ok t ∧ ¬ AppendsSmallValue (bs.drop 10) t := by
  have behind : (bs.drop 6).drop 4 = bs.drop 10 := List.drop_drop
  rw [exists_decode_iff hh total, service, Header.size]
  constructor
  · rintro ⟨b, hb, len⟩
    obtain ⟨c, t, hc, ht, rfl⟩ := Body.parse_tunnelingRequest_iff.mp hb
    have room := TunnelHeader.four_le_of_parse hc
    rw [behind] at ht
    refine ⟨⟨c, hc⟩, t, ht, (Telegram.encodedLength_eq_iff_of_parse ht).mp ?_⟩
    rw [← behind, List.length_drop, ← len, Body.encodedLength]
    omega
  · rintro ⟨⟨c, hc⟩, t, ht, canonical⟩
    have room := TunnelHeader.four_le_of_parse hc
    have len := (Telegram.encodedLength_eq_iff_of_parse ht).mpr canonical
    rw [← behind] at ht
    refine ⟨_, Body.parse_tunnelingRequest_iff.mpr ⟨c, t, hc, ht, rfl⟩, ?_⟩
    rw [Body.encodedLength, len, ← behind, List.length_drop]
    omega

theorem exists_decode_routingIndication_iff {bs : Bytes} {h : Header}
    (hh : Header.parse bs = .ok h) (total : h.totalLength.toNat = bs.length)
    (service : h.service = .routingIndication) :
    (∃ f, decode bs = .ok f) ↔
      ∃ t, Telegram.parse (bs.drop 6) = .ok t ∧ ¬ AppendsSmallValue (bs.drop 6) t := by
  rw [exists_decode_iff hh total, service, Header.size]
  constructor
  · rintro ⟨b, hb, len⟩
    obtain ⟨t, ht, rfl⟩ := Body.parse_routingIndication_iff.mp hb
    exact ⟨t, ht, (Telegram.encodedLength_eq_iff_of_parse ht).mp len⟩
  · rintro ⟨t, ht, canonical⟩
    refine ⟨_, Body.parse_routingIndication_iff.mpr ⟨t, ht, rfl⟩, ?_⟩
    exact (Telegram.encodedLength_eq_iff_of_parse ht).mpr canonical

/-- Behind a good header, the frame of a telegram is read exactly if the parts in front of the
telegram and the telegram itself are read, and the telegram does not append a value that would fit
into its application octet. -/
theorem decode_telegram_iff {bs : Bytes} {h : Header} (hh : Header.parse bs = .ok h)
    (total : h.totalLength.toNat = bs.length) :
    (h.service = .tunnelingRequest →
      ((∃ f, decode bs = .ok f) ↔ (∃ c, TunnelHeader.parse (bs.drop 6) = .ok c) ∧
        ∃ t, Telegram.parse (bs.drop 10) = .ok t ∧ ¬ AppendsSmallValue (bs.drop 10) t)) ∧
    (h.service = .routingIndication →
      ((∃ f, decode bs = .ok f) ↔
        ∃ t, Telegram.parse (bs.drop 6) = .ok t ∧ ¬ AppendsSmallValue (bs.drop 6) t)) :=
  ⟨exists_decode_tunnelingRequest_iff hh total, exists_decode_routingIndication_iff hh total⟩

/-- A tunneling request that writes the value 0x85, which has to be appended. -/
def tunneledWrite : Bytes :=
  [0x06, 0x10, 0x04, 0x20, 0x00, 0x16, 0x04, 0x07, 0x2A, 0x00, 0x29, 0x00, 0xBC, 0xE0, 0x11, 0x01,
    0x0A, 0x03, 0x02, 0x00, 0x80, 0x85]

theorem decode_telegram_iff_tunneledWrite :
    Header.parse tunneledWrite = .ok ⟨.tunnelingRequest, 22⟩ ∧
      (22 : UInt16).toNat = tunneledWrite.length ∧
      ((∃ f, decode tunneledWrite = .ok f) ↔
        (∃ c, TunnelHeader.parse (tunneledWrite.drop 6) = .ok c) ∧
          ∃ t, Telegram.parse (tunneledWrite.drop 10) = .ok t ∧
            ¬ AppendsSmallValue (tunneledWrite.drop 10) t) :=
  ⟨rfl, rfl, (decode_telegram_iff (h := ⟨.tunnelingRequest, 22⟩) rfl rfl).1 rfl⟩

/-- A routing indication that writes the value 5 and appends it. -/
def routedWrite : Bytes :=
  [0x06, 0x10, 0x05, 0x30, 0x00, 0x12, 0x29, 0x00, 0xBC, 0xE0, 0x11, 0x01, 0x0A, 0x03, 0x02, 0x00,
    0x80, 0x05]

/-- Its header is good, and its telegram takes all octets behind the header; yet no frame is
read. -/
theorem decode_refuses_routedWrite :
    Header.parse routedWrite = .ok ⟨.routingIndication, 18⟩ ∧
      (18 : UInt16).toNat = routedWrite.length ∧
      (∃ t, Telegram.parse (routedWrite.drop 6) = .ok t ∧ t.data.val = [5]) ∧
      decode routedWrite = .error (.framing .lengthMismatch) :=
  ⟨rfl, rfl, ⟨_, rfl, rfl⟩, rfl⟩

end KnxIp.Frame
