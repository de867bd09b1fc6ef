/-
  Bodies of frames written and read back, for each service type.

  A body is representable if an assigned address stands next to a data endpoint and if its
  description is representable. Such a body is written as `bytes` says (`encode_eq_ok`) and read
  back under its service type (`parse_bytes`); and what is read under a service type is a
  representable body of that type (`service_and_representable_of_parse`).
-/
import KnxIp.Frame.Body
import KnxIp.Proofs.Description.RoundTrip
import KnxIp.Proofs.Telegram.RoundTrip

namespace KnxIp

theorem Endpoint.parse_bytes (e : Endpoint) : parse e.bytes = .ok e := by
  have h := e.parse_bytes_append []
  rwa [List.append_nil] at h

theorem ConnectionKind.parse_bytes (k : ConnectionKind) : parse k.bytes = .ok k := by
  have h := k.parse_bytes_append []
  rwa [List.append_nil] at h

theorem AssignedAddress.parse_bytes (a : AssignedAddress) : parse a.bytes = .ok a := by
  have h := a.parse_bytes_append []
  rwa [List.append_nil] at h

namespace Body

/-- The octets of a body. -/
def bytes : Body → Bytes
  | searchRequest e | descriptionRequest e => e.bytes
  | searchResponse e d => e.bytes ++ d.bytes
  | descriptionResponse d => d.bytes
  | connectRequest c d k => c.bytes ++ d.bytes ++ k.bytes
  | connectResponse c s none _ => [c, s]
  | connectResponse c s (some d) none => [c, s] ++ d.bytes
  | connectResponse c s (some d) (some a) => [c, s] ++ d.bytes ++ a.bytes
  | connectionStateRequest c e | disconnectRequest c e => [c, 0] ++ e.bytes
  | connectionStateResponse c s | disconnectResponse c s => [c, s]
  | tunnelingRequest h t => h.bytes ++ t.bytes
  | tunnelingAck h => h.bytes
  | routingIndication t => t.bytes
  | routingLostMessage s lost => [4, s] ++ wordBytes lost
  | routingBusy s wait control => [6, s] ++ wordBytes wait ++ wordBytes control

/-- What a body can say on the wire: an assigned address only next to a data endpoint, and only a
description that is representable. -/
def Representable : Body → Prop
  | connectResponse _ _ data assigned => assigned.isSome = true → data.isSome = true
  | searchResponse _ d | descriptionResponse d => d.Representable
  | _ => True

theorem length_bytes (b : Body) : b.bytes.length = b.encodedLength := by
  cases b with
  | searchResponse e d =>
    simp only [bytes, encodedLength, List.length_append, e.length_bytes, d.length_bytes,
      Endpoint.size]
  | descriptionResponse d => exact d.length_bytes
  | connectResponse c s data assigned => cases data <;> cases assigned <;> rfl
  | tunnelingRequest h t =>
    simp only [bytes, encodedLength, List.length_append, t.length_bytes]
    rfl
  | routingIndication t => exact t.length_bytes
  | _ => rfl

/-! ## Writing -/

theorem encode_eq_ok {b : Body} (h : b.Representable) {room : Nat}
    (fits : b.encodedLength ≤ room) : b.encode room = .ok b.bytes := by
  cases b with
  | searchResponse e d =>
    simp only [encodedLength] at fits
    have front : e.encode room = .ok e.bytes := if_neg (by unfold Endpoint.size; omega)
    have rest : d.encode (room - e.bytes.length) = .ok d.bytes :=
      Description.encode_eq_ok (fun b hb => (h.others b hb).length_le)
        (by rw [e.length_bytes, Endpoint.size]; omega)
    simp only [encode, front, rest, bind, Except.bind, pure, Except.pure, bytes]
  | descriptionResponse d =>
    exact Description.encode_eq_ok (fun b hb => (h.others b hb).length_le) fits
  | connectResponse c s data assigned =>
    cases data with
    | none => exact if_neg (Nat.not_lt.mpr fits)
    | some e => cases assigned <;> exact if_neg (Nat.not_lt.mpr fits)
  | tunnelingRequest header t =>
    simp only [encodedLength] at fits
    have front : header.encode room = .ok header.bytes := if_neg (by omega)
    have rest : t.encode (room - header.bytes.length) = .ok t.bytes :=
      Telegram.encode_eq_ok (by show t.encodedLength ≤ room - 4; omega)
    simp only [encode, front, rest, bind, Except.bind, pure, Except.pure, bytes]
  | routingIndication t => exact Telegram.encode_eq_ok fits
  | _ => exact if_neg (Nat.not_lt.mpr fits)

/-! ## Reading what was written -/

theorem drop_endpoint (e : Endpoint) (rest : Bytes) : (e.bytes ++ rest).drop 8 = rest :=
  List.drop_left' rfl

theorem parseConnectRequest_bytes (c d : Endpoint) (k : ConnectionKind) :
    parseConnectRequest (connectRequest c d k).bytes = .ok (connectRequest c d k) := by
  have behind : (c.bytes ++ (d.bytes ++ k.bytes)).drop 16 = k.bytes := rfl
  have room : ¬ (c.bytes ++ (d.bytes ++ k.bytes)).length < 20 := Nat.not_lt.mpr (Nat.le_refl 20)
  simp only [bytes, List.append_assoc, parseConnectRequest, if_neg room, c.parse_bytes_append,
    drop_endpoint, d.parse_bytes_append, behind, k.parse_bytes]
  rfl

/-- A connect response is read back by its length: 2 octets, 10 or 14. -/
theorem parseConnectResponse_bytes (c s : UInt8) {data : Option Endpoint}
    {assigned : Option AssignedAddress} (h : assigned.isSome = true → data.isSome = true) :
    parseConnectResponse (connectResponse c s data assigned).bytes =
      .ok (connectResponse c s data assigned) := by
  cases data with
  | none =>
    cases assigned with
    | none => rfl
    | some a => cases h rfl
  | some e =>
    cases assigned with
    | none =>
      have whole : e.bytes.length ≤ 8 := Nat.le_refl 8
      -- the equation for a longer response asks that something follows the status
      show parseConnectResponse (c :: s :: e.bytes) = _
      rw [parseConnectResponse]
      · simp only [e.parse_bytes, bind, Except.bind, if_pos whole]
        rfl
      · rintro ⟨⟩
    | some a =>
      have more : ¬ (e.bytes ++ a.bytes).length ≤ 8 := Nat.not_le.mpr (by decide : 8 < 12)
      show parseConnectResponse (c :: s :: (e.bytes ++ a.bytes)) = _
      rw [parseConnectResponse]
      · simp only [e.parse_bytes_append, bind, Except.bind, if_neg more, drop_endpoint,
          a.parse_bytes]
        rfl
      · rintro ⟨⟩

/-- A representable body is read back under its service type. -/
theorem parse_bytes {b : Body} (h : b.Representable) : parse b.service b.bytes = .ok b := by
  cases b with
  | searchRequest e | descriptionRequest e =>
    simp only [service, parse, bytes, e.parse_bytes]
    rfl
  | searchResponse e d =>
    simp only [service, parse, bytes, e.parse_bytes_append, drop_endpoint,
      Description.parse_bytes h]
    rfl
  | descriptionResponse d =>
    simp only [service, parse, bytes, Description.parse_bytes h]
    rfl
  | connectRequest c d k => rw [service, parse, parseConnectRequest_bytes]; rfl
  | connectResponse c s data assigned => rw [service, parse, parseConnectResponse_bytes c s h]; rfl
  | connectionStateRequest c e | disconnectRequest c e =>
    simp only [service, parse, bytes, List.cons_append, List.nil_append, parseChannelRequest,
      e.parse_bytes]
    rfl
  | tunnelingRequest header t =>
    have behind : (header.bytes ++ t.bytes).drop 4 = t.bytes := rfl
    simp only [service, parse, bytes, header.parse_bytes_append, behind, Telegram.parse_bytes]
    rfl
  | routingIndication t =>
    simp only [service, parse, bytes, Telegram.parse_bytes]
    rfl
  | routingLostMessage s lost =>
    simp only [service, parse, bytes, wordBytes, List.cons_append, List.nil_append,
      parseRoutingLostMessage, word_high_low]
    rfl
  | routingBusy s wait control =>
    simp only [service, parse, bytes, wordBytes, List.cons_append, List.nil_append,
      parseRoutingBusy, word_high_low]
    rfl
  | _ => rfl

/-! ## What is read -/

theorem framed_eq_ok_iff {α : Type} {r : Except FramingFault α} {a : α} :
    framed r = .ok a ↔ r = .ok a := by
  cases r with
  | ok b =>
    show (.ok b : Except Fault α) = .ok a ↔ (.ok b : Except FramingFault α) = .ok a
    rw [Except.ok.injEq, Except.ok.injEq]
  | error e =>
    show (.error (.framing e) : Except Fault α) = .ok a ↔ (.error e : Except FramingFault α) = .ok a
    simp

theorem parseConnectRequest_ok {bs : Bytes} {b : Body} (h : parseConnectRequest bs = .ok b) :
    ∃ c d k, b = connectRequest c d k := by
  unfold parseConnectRequest at h
  split at h
  · cases h
  · obtain ⟨c, -, h⟩ := bind_eq_ok_iff.mp h
    obtain ⟨d, -, h⟩ := bind_eq_ok_iff.mp h
    obtain ⟨k, -, h⟩ := bind_eq_ok_iff.mp h
    cases h
    exact ⟨c, d, k, rfl⟩

theorem parseConnectResponse_ok {bs : Bytes} {b : Body} (h : parseConnectResponse bs = .ok b) :
    ∃ c s data assigned, b = connectResponse c s data assigned ∧
      (assigned.isSome = true → data.isSome = true) := by
  unfold parseConnectResponse at h
  split at h
  · cases h
    exact ⟨_, _, none, none, rfl, id⟩
  · obtain ⟨e, -, h⟩ := bind_eq_ok_iff.mp h
    split at h
    · cases h
      exact ⟨_, _, some e, none, rfl, fun _ => rfl⟩
    · obtain ⟨a, -, h⟩ := bind_eq_ok_iff.mp h
      cases h
      exact ⟨_, _, some e, some a, rfl, fun _ => rfl⟩
  · cases h

theorem parseRoutingLostMessage_ok {bs : Bytes} {b : Body}
    (h : parseRoutingLostMessage bs = .ok b) : ∃ s lost, b = routingLostMessage s lost := by
  unfold parseRoutingLostMessage at h
  split at h
  · split at h
    · cases h
    · cases h
      exact ⟨_, _, rfl⟩
  · cases h

theorem parseRoutingBusy_ok {bs : Bytes} {b : Body} (h : parseRoutingBusy bs = .ok b) :
    ∃ s wait control, b = routingBusy s wait control := by
  unfold parseRoutingBusy at h
  split at h
  · split at h
    · cases h
    · cases h
      exact ⟨_, _, _, rfl⟩
  · cases h

theorem parse_tunnelingRequest_iff {bs : Bytes} {b : Body} :
    parse .tunnelingRequest bs = .ok b ↔ ∃ header t, TunnelHeader.parse bs = .ok header ∧
      Telegram.parse (bs.drop 4) = .ok t ∧ b = tunnelingRequest header t := by
  constructor
  · intro h
    obtain ⟨header, hh, h⟩ := bind_eq_ok_iff.mp h
    obtain ⟨t, ht, h⟩ := bind_eq_ok_iff.mp h
    cases h
    exact ⟨header, t, framed_eq_ok_iff.mp hh, ht, rfl⟩
  · rintro ⟨header, t, hh, ht, rfl⟩
    exact bind_eq_ok_iff.mpr ⟨header, framed_eq_ok_iff.mpr hh, bind_eq_ok_iff.mpr ⟨t, ht, rfl⟩⟩

theorem parse_routingIndication_iff {bs : Bytes} {b : Body} :
    parse .routingIndication bs = .ok b ↔
      ∃ t, Telegram.parse bs = .ok t ∧ b = routingIndication t := by
  constructor
  · intro h
    obtain ⟨t, ht, rfl⟩ := map_eq_ok_iff.mp h
    exact ⟨t, ht, rfl⟩
  · rintro ⟨t, ht, rfl⟩
    exact map_eq_ok_iff.mpr ⟨t, ht, rfl⟩

/-- What is read under a service type is a representable body of that type. -/
theorem service_and_representable_of_parse {service : Service} {bs : Bytes} {b : Body}
    (h : parse service bs = .ok b) : b.service = service ∧ b.Representable := by
  cases service with
  | searchRequest | descriptionRequest | connectionStateRequest | connectionStateResponse
  | disconnectRequest | disconnectResponse | tunnelingAck =>
    obtain ⟨_, -, rfl⟩ := map_eq_ok_iff.mp (framed_eq_ok_iff.mp h)
    exact ⟨rfl, trivial⟩
  | searchResponse =>
    obtain ⟨e, -, h⟩ := bind_eq_ok_iff.mp (framed_eq_ok_iff.mp h)
    obtain ⟨d, hd, h⟩ := bind_eq_ok_iff.mp h
    cases h
    exact ⟨rfl, Description.representable_of_parse hd⟩
  | descriptionResponse =>
    obtain ⟨d, hd, rfl⟩ := map_eq_ok_iff.mp (framed_eq_ok_iff.mp h)
    exact ⟨rfl, Description.representable_of_parse hd⟩
  | connectRequest =>
    obtain ⟨c, d, k, rfl⟩ := parseConnectRequest_ok (framed_eq_ok_iff.mp h)
    exact ⟨rfl, trivial⟩
  | connectResponse =>
    obtain ⟨c, s, data, assigned, rfl, both⟩ := parseConnectResponse_ok (framed_eq_ok_iff.mp h)
    exact ⟨rfl, both⟩
  | tunnelingRequest =>
    obtain ⟨header, t, -, -, rfl⟩ := parse_tunnelingRequest_iff.mp h
    exact ⟨rfl, trivial⟩
  | routingIndication =>
    obtain ⟨t, -, rfl⟩ := parse_routingIndication_iff.mp h
    exact ⟨rfl, trivial⟩
  | routingLostMessage =>
    obtain ⟨s, lost, rfl⟩ := parseRoutingLostMessage_ok (framed_eq_ok_iff.mp h)
    exact ⟨rfl, trivial⟩
  | routingBusy =>
    obtain ⟨s, wait, control, rfl⟩ := parseRoutingBusy_ok (framed_eq_ok_iff.mp h)
    exact ⟨rfl, trivial⟩

end Body
end KnxIp
