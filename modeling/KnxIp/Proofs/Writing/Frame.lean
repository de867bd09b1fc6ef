/-
  Writing telegrams, bodies and frames: each writer writes what its `encode` says.

  Main statement. `announces_write`: a body is written exactly if there are as many octets in the
  buffer as it announces and the data of every other block fits behind a length octet; a frame, if
  moreover its header fits as well and it is not longer than a frame may be. Then as many octets are
  written as were announced, and the header of a frame says how many these are.
-/
import KnxIp.Proofs.Frame.RoundTrip
import KnxIp.Proofs.Writing.Blocks
import KnxIp.Writing.Frame

namespace KnxIp

open Body (fit)
open Writing

/-! ## Telegrams -/

namespace Telegram

namespace Content

theorem putsAt_payload (c : Content) (place : Nat) :
    PutsAt (c.writePayload place) place c.payload () := by
  unfold writePayload payload
  cases c.apci with
  | none => exact putsAt_pure _ _
  | some a =>
    cases inside : c.isInline with
    | true =>
      obtain ⟨-, v, -, -, alone, -⟩ := isInline_iff.mp inside
      simp only [alone, if_true, List.headD_cons]
      exact putsAt_put rfl _
    | false =>
      simp only [Bool.false_eq_true, if_false]
      rw [← List.singleton_append]
      exact (putsAt_put rfl _).bind (putsAt_copy rfl rfl)

theorem putsAt_fields (c : Content) (start : Nat) :
    PutsAt (c.writeFields start) start ([c.control1.raw] ++ ([c.control2.raw] ++ (c.source.bytes ++
      (wordBytes c.destination.raw ++ ([c.npduLength] ++ c.transportOctet :: c.payload)))))
      c.encodedLength :=
  PutsAt.bind (putsAt_put rfl _) <|
  PutsAt.bind (putsAt_put rfl _) <|
  PutsAt.bind (putsAt_copy rfl rfl) <|
  PutsAt.bind (putsAt_copy rfl rfl) <|
  PutsAt.bind (putsAt_put rfl _) <|
  (c.putsAt_payload _).bind_front rfl _ _

theorem writes_write (c : Content) : Writes c.write (fit c.bytes) := by
  have parts : c.bytes = [c.messageCode.code] ++ ([c.info.val.length.toUInt8] ++ (c.info.val ++
      ([c.control1.raw] ++ ([c.control2.raw] ++ (c.source.bytes ++ (wordBytes c.destination.raw ++
        ([c.npduLength] ++ c.transportOctet :: c.payload))))))) := by
    simp [bytes]
  refine writes_fit c.length_bytes ?_
  rw [parts]
  exact PutsAt.bind (putsAt_put rfl _) <|
    PutsAt.bind (putsAt_put rfl _) <|
    PutsAt.bind (putsAt_copy rfl rfl) <|
    c.putsAt_fields _

end Content

theorem encode_eq_fit (t : Telegram) : t.encode = fit t.bytes := by
  funext room
  rw [fit, t.length_bytes]
  rfl

theorem writes_write (t : Telegram) : Writes t.write t.encode := by
  rw [t.encode_eq_fit]
  exact t.toContent.writes_write

end Telegram

/-! ## Bodies -/

namespace Body

theorem writes_writePair (c s : UInt8) : Writes (writePair c s) (fit [c, s]) :=
  @writes_fit [c, s] 2 _ rfl <|
    PutsAt.bind (putsAt_put rfl _) <|
    PutsAt.bind (putsAt_put rfl _) <|
    putsAt_pure _ _

theorem writes_writeChannelRequest (c : UInt8) (e : Endpoint) :
    Writes (writeChannelRequest c e) (fit ([c, 0] ++ e.bytes)) := by
  have endpoint : WritesAt (append 2 e.write) 2 (fit e.bytes) := e.writes_write.append 2
  refine @writes_fit ([c, 0] ++ e.bytes) 10 _ rfl ?_
  show PutsAt _ 0 ([c] ++ ([0] ++ e.bytes)) 10
  exact PutsAt.bind (putsAt_put rfl c) <|
    PutsAt.bind (putsAt_put rfl 0) <|
    endpoint.putsAt

theorem writes_writeConnectResponse (c s : UInt8) (data : Option Endpoint)
    (assigned : Option AssignedAddress) : Writes (writeConnectResponse c s data assigned)
      (encode (connectResponse c s data assigned)) := by
  have pair := writes_writePair c s
  rcases data with _ | e
  · show Writes (writePair c s >>= pure) _
    rw [bind_pure]
    exact pair
  · have endpoint (offset : Nat) : WritesAt (append offset e.write) offset (fit e.bytes) :=
      e.writes_write.append offset
    rcases assigned with _ | a
    · show Writes (writePair c s >>= fun offset => append offset e.write >>= pure)
        (fit ([c, s] ++ e.bytes))
      simp only [bind_pure, ← followedBy_fit]
      exact pair.bind endpoint
    · show Writes (writePair c s >>= fun offset =>
          append offset e.write >>= fun offset => append offset a.write)
        (fit ([c, s] ++ e.bytes ++ a.bytes))
      rw [List.append_assoc, ← followedBy_fit, ← followedBy_fit]
      exact pair.bind fun offset => (endpoint offset).bind a.writes_write.append

/-- Every body is written as its encoding says. -/
theorem writes_write (b : Body) : Writes b.write b.encode := by
  cases b with
  | searchRequest e | descriptionRequest e => exact e.writes_write
  | searchResponse e d => exact e.writes_write.bind d.writes_write.append
  | descriptionResponse d => exact d.writes_write
  | connectRequest c d k =>
    have whole : encode (connectRequest c d k) =
        followedBy c.encode (followedBy d.encode k.encode) := by
      show fit (c.bytes ++ d.bytes ++ k.bytes) =
        followedBy (fit c.bytes) (followedBy (fit d.bytes) (fit k.bytes))
      rw [followedBy_fit, followedBy_fit, List.append_assoc]
    rw [whole]
    exact c.writes_write.bind fun offset =>
      (d.writes_write.append offset).bind k.writes_write.append
  | connectResponse c s data assigned => exact writes_writeConnectResponse c s data assigned
  | connectionStateRequest c e | disconnectRequest c e => exact writes_writeChannelRequest c e
  | connectionStateResponse c s | disconnectResponse c s => exact writes_writePair c s
  | tunnelingRequest h t => exact h.writes_write.bind t.writes_write.append
  | tunnelingAck h => exact h.writes_write
  | routingIndication t => exact t.writes_write
  | routingLostMessage s lost =>
    refine @writes_fit ([4, s] ++ wordBytes lost) 4 _ rfl ?_
    show PutsAt _ 0 ([4] ++ ([s] ++ (wordBytes lost ++ []))) 4
    exact PutsAt.bind (putsAt_put rfl _) <|
      PutsAt.bind (putsAt_put rfl _) <|
      PutsAt.bind (putsAt_copy rfl rfl) <|
      putsAt_pure _ _
  | routingBusy s wait control =>
    refine @writes_fit ([6, s] ++ wordBytes wait ++ wordBytes control) 6 _ rfl ?_
    show PutsAt _ 0 ([6] ++ ([s] ++ (wordBytes wait ++ (wordBytes control ++ [])))) 6
    exact PutsAt.bind (putsAt_put rfl _) <|
      PutsAt.bind (putsAt_put rfl _) <|
      PutsAt.bind (putsAt_copy rfl rfl) <|
      PutsAt.bind (putsAt_copy rfl rfl) <|
      putsAt_pure _ _

/-- The other blocks in a body. -/
def others : Body → List OtherBlock
  | searchResponse _ d | descriptionResponse d => d.others
  | _ => []

/-- A body is written exactly if there is room for as many octets as it announces and none of its
other blocks is too long. -/
theorem encode_eq_ok_iff {b : Body} {room : Nat} {bs : Bytes} : b.encode room = .ok bs ↔
    bs = b.bytes ∧ b.encodedLength ≤ room ∧ ∀ x ∈ b.others, x.data.length ≤ 253 := by
  have plain (octets : Bytes) : fit octets room = .ok bs ↔ bs = octets ∧ octets.length ≤ room ∧
      ∀ x ∈ ([] : List OtherBlock), x.data.length ≤ 253 := by
    rw [fit_eq_ok_iff, and_iff_left (by simp : ∀ x ∈ ([] : List OtherBlock), x.data.length ≤ 253)]
  cases b with
  | searchRequest e | descriptionRequest e => exact plain e.bytes
  | searchResponse e d =>
    have parts : followedBy (fit e.bytes) d.encode room = .ok bs ↔
        ∃ front rest, fit e.bytes room = .ok front ∧ d.encode (room - front.length) = .ok rest ∧
          bs = front ++ rest := followedBy_eq_ok_iff
    refine parts.trans ⟨?_, ?_⟩
    · rintro ⟨front, rest, endpoint, description, rfl⟩
      obtain ⟨rfl, room₁⟩ := fit_eq_ok_iff.mp endpoint
      obtain ⟨rfl, room₂, short⟩ := Description.encode_eq_ok_iff.mp description
      rw [e.length_bytes, Endpoint.size] at room₁ room₂
      exact ⟨rfl, by rw [encodedLength]; omega, short⟩
    · rintro ⟨rfl, enough, short⟩
      rw [encodedLength] at enough
      refine ⟨e.bytes, d.bytes, fit_eq_ok_iff.mpr ⟨rfl, ?_⟩,
        Description.encode_eq_ok_iff.mpr ⟨rfl, ?_, short⟩, rfl⟩ <;>
      · rw [e.length_bytes, Endpoint.size]
        omega
  | descriptionResponse d => exact Description.encode_eq_ok_iff
  | connectResponse c s data assigned =>
    rcases data with _ | e
    · exact plain _
    · rcases assigned with _ | a <;> exact plain _
  | tunnelingRequest h t =>
    have whole : encode (tunnelingRequest h t) = fit (h.bytes ++ t.bytes) := by
      rw [← followedBy_fit, ← t.encode_eq_fit]
      rfl
    rw [whole, ← (tunnelingRequest h t).length_bytes]
    exact plain _
  | tunnelingAck h => exact plain h.bytes
  | routingIndication t =>
    have whole : encode (routingIndication t) = fit t.bytes := t.encode_eq_fit
    rw [whole, ← (routingIndication t).length_bytes]
    exact plain _
  | _ => exact plain _

end Body

/-! ## Frames -/

namespace Frame

/-- A frame is written exactly if its body is, behind the header, and is not too long. -/
theorem encode_eq_ok_iff {f : Frame} {room : Nat} {bs : Bytes} : f.encode room = .ok bs ↔
    bs = (Header.forBody f.header.service f.body.encodedLength.toUInt16).bytes ++ f.body.bytes ∧
      6 + f.body.encodedLength ≤ room ∧ 6 + f.body.encodedLength ≤ 512 ∧
      ∀ x ∈ f.body.others, x.data.length ≤ 253 := by
  unfold encode
  split
  · rename_i short
    unfold Header.size at short
    constructor
    · intro h
      cases h
    · intro h
      omega
  · rename_i enough
    rw [bind_eq_ok_iff, Header.size] at *
    constructor
    · rintro ⟨body, hb, h⟩
      obtain ⟨rfl, room', short⟩ := Body.encode_eq_ok_iff.mp hb
      rw [f.body.length_bytes] at h
      split at h
      · cases h
      · rename_i fits
        cases h
        unfold maxFrameSize at fits
        exact ⟨rfl, by omega, by omega, short⟩
    · rintro ⟨rfl, room', fits, short⟩
      refine ⟨f.body.bytes, Body.encode_eq_ok_iff.mpr ⟨rfl, by omega, short⟩, ?_⟩
      rw [f.body.length_bytes, if_neg (by unfold maxFrameSize; omega)]
      rfl

section Parts

variable {f : Frame} {head rest : Bytes} (six : head.length = Header.size)
include six

theorem run_write {w : Nat → Writing Nat} : (require Header.size >>= fun _ =>
    behind Header.size f.body.write >>= w).run (head ++ rest) =
      (behind Header.size f.body.write >>= w).run (head ++ rest) := by
  rw [run_require_bind, if_neg (by rw [List.length_append]; omega)]

/-- If the body cannot be written, the frame cannot, and the place of the header is untouched. -/
theorem run_write_of_error {s : Stop} {left : Bytes}
    (stopped : f.body.write.run rest = .error s left) :
    f.write.run (head ++ rest) = .error s (head ++ left) := by
  refine (run_write six).trans (run_bind_of_error ?_ _)
  rw [run_behind six.symm, stopped]

/-- The header goes in front of the body, unless that would be too long. -/
theorem run_write_of_ok {n : Nat} {after : Bytes} (written : f.body.write.run rest = .ok n after) :
    f.write.run (head ++ rest) =
      if maxFrameSize < Header.size + n then
        .error (.fault (.framing .payloadTooLarge)) (head ++ after)
      else .ok (Header.size + n)
        ((Header.forBody f.header.service n.toUInt16).bytes ++ after) := by
  have body : (behind Header.size f.body.write).run (head ++ rest) = .ok n (head ++ after) := by
    rw [run_behind six.symm, written]
  rw [show f.write.run (head ++ rest) = _ from (run_write six).trans (run_bind_of_ok body _),
    run_refuse_bind]
  refine congrArg (ite _ _) ?_
  have room : (Header.forBody f.header.service n.toUInt16).encode (head ++ after).length =
      .ok (Header.forBody f.header.service n.toUInt16).bytes :=
    if_neg (by rw [List.length_append]; omega)
  obtain ⟨-, header⟩ := (Header.writes_write _).run_of_ok room
  rw [run_bind_of_ok header, overlay, Header.length_bytes, ← six, List.drop_left]
  rfl

end Parts

/-- Every frame is written as its encoding says. -/
theorem writes_write (f : Frame) : Writes f.write f.encode := by
  rw [writes_iff_run]
  intro slice
  by_cases short : slice.length < Header.size
  · refine .inr ⟨.bufferTooSmall, slice, if_pos short, rfl, ?_⟩
    rw [write, run_require_bind, if_pos short]
  have six : (slice.take Header.size).length = Header.size :=
    List.length_take_of_le (Nat.le_of_not_lt short)
  have behind : slice.length - Header.size = (slice.drop Header.size).length :=
    List.length_drop.symm
  have parts : slice = slice.take Header.size ++ slice.drop Header.size :=
    (List.take_append_drop _ _).symm
  obtain ⟨body, found, room, written⟩ | ⟨fault, left, found, size, stopped⟩ :=
    writes_iff_run.mp f.body.writes_write (slice.drop Header.size)
  · have whole := run_write_of_ok six written
    rw [← parts] at whole
    -- the body is there before its length is compared with what a frame may have
    by_cases large : maxFrameSize < Header.size + body.length
    · rw [if_pos large] at whole
      refine .inr ⟨.payloadTooLarge, _, ?_, ?_, whole⟩
      · simp only [encode, if_neg short, behind, found, bind, Except.bind, if_pos large]
      · rw [List.length_append, length_overlay room, six, ← behind]
        omega
    · rw [if_neg large] at whole
      refine .inl ⟨(Header.forBody f.header.service body.length.toUInt16).bytes ++ body, ?_, ?_, ?_⟩
      · simp only [encode, if_neg short, behind, found, bind, Except.bind, if_neg large]
        rfl
      · rw [List.length_append, Header.length_bytes]
        omega
      · rw [whole, overlay_append, List.length_append]
        rfl
  · have whole := run_write_of_error six stopped
    rw [← parts] at whole
    refine .inr ⟨fault, _, ?_, ?_, whole⟩
    · simp only [encode, if_neg short, behind, found, bind, Except.bind]
    · rw [List.length_append, six, size, ← behind]
      omega

/-- A body is written exactly if the buffer has as many octets as the body announces and no other
block has more than 253 octets of data; then as many are written as were announced. So is its frame,
under any header, if moreover its 6 octets more fit into the buffer and are at most 512 in all, and
the total length in the header that is written is their number. All octets behind are left as they
were, and no writer uses a place that is not there. -/
theorem announces_write (b : Body) (h : Header) (buffer : Bytes) :
    Announces b.write b.encodedLength
      (b.encodedLength ≤ buffer.length ∧ ∀ x ∈ b.others, x.data.length ≤ 253) buffer ∧
    Announces (Frame.mk h b).write (6 + b.encodedLength)
      (6 + b.encodedLength ≤ buffer.length ∧ 6 + b.encodedLength ≤ 512 ∧
        ∀ x ∈ b.others, x.data.length ≤ 253) buffer ∧
    (∀ n after, (Frame.mk h b).write.run buffer = .ok n after →
      ∃ total, Header.parse after = .ok ⟨h.service, total⟩ ∧ total.toNat = n) ∧
    ∀ n after, (b.write.run buffer = .ok n after ↔ intoBuffer b.encode buffer = .ok (n, after)) ∧
      ((Frame.mk h b).write.run buffer = .ok n after ↔
        intoBuffer (Frame.mk h b).encode buffer = .ok (n, after)) := by
  have whole : ((Header.forBody h.service b.encodedLength.toUInt16).bytes ++ b.bytes).length =
      6 + b.encodedLength := by
    rw [List.length_append, Header.length_bytes, b.length_bytes, Header.size]
  refine ⟨?_, ?_, ?_, fun n after => ⟨b.writes_write.run_eq_ok_iff, (writes_write _).run_eq_ok_iff⟩⟩
  · rw [← b.length_bytes]
    exact b.writes_write.announces fun bs => by rw [Body.encode_eq_ok_iff, b.length_bytes]
  · rw [← whole]
    exact (writes_write _).announces fun bs => by rw [encode_eq_ok_iff, whole]
  · intro n after written
    obtain ⟨bs, found, same⟩ := map_eq_ok_iff.mp ((writes_write _).run_eq_ok_iff.mp written)
    obtain ⟨rfl, -, fits, -⟩ := encode_eq_ok_iff.mp found
    obtain ⟨rfl, rfl⟩ := Prod.mk.inj same
    have total : (6 + b.encodedLength.toUInt16).toNat = 6 + b.encodedLength :=
      totalLength_ofBody (Nat.le_of_add_le_add_left fits)
    refine ⟨6 + b.encodedLength.toUInt16, ?_, total.trans whole.symm⟩
    rw [overlay, List.append_assoc]
    exact Header.parse_bytes_append _ _

/-- A state response goes over the first eight of ten octets, and its header is put right. -/
theorem announces_write_stateResponse :
    let f : Frame := ⟨⟨.connectionStateResponse, 0⟩, .connectionStateResponse 5 0⟩
    let after : Bytes := [6, 0x10, 2, 8, 0, 8, 5, 0, 0xEE, 0xEE]
    f.write.run (List.replicate 10 0xEE) = .ok 8 after ∧
      ∃ total, Header.parse after = .ok ⟨.connectionStateResponse, total⟩ ∧ total.toNat = 8 :=
  ⟨rfl, (announces_write (.connectionStateResponse 5 0) ⟨.connectionStateResponse, 0⟩
    (List.replicate 10 0xEE)).2.2.1 8 _ rfl⟩

end Frame

end KnxIp
