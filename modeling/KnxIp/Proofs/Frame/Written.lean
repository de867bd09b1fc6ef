/-
  What is found in a frame that was written.

  Whatever is read from the octets of a frame has the service type of the body that was written
  (`service_of_bodyIn?`), also where a body cannot be said on the wire and something else is read.
-/
import KnxIp.Network.Journal
import KnxIp.Proofs.Frame.RoundTrip

namespace KnxIp

namespace Frame

theorem bodyIn?_eq_some_iff {bs : Bytes} {b : Body} :
    bodyIn? bs = some b ↔ ∃ f, decode bs = .ok f ∧ f.body = b := by
  unfold bodyIn?
  cases decode bs <;> simp [Except.toOption]

theorem bodyIn?_of_error {bs : Bytes} {f : Fault} (h : decode bs = .error f) :
    bodyIn? bs = none := by
  rw [bodyIn?, h]
  rfl

theorem exists_of_bytes_eq_ok {b : Body} {bs : Bytes} (h : (ofBody b).bytes = .ok bs) :
    ∃ announced rest, bs = (Header.forBody b.service announced).bytes ++ rest := by
  unfold bytes encode at h
  split at h
  · cases h
  · obtain ⟨rest, -, h⟩ := bind_eq_ok_iff.mp h
    split at h
    · cases h
    · cases h
      exact ⟨_, rest, rfl⟩

theorem service_of_bodyIn? {b r : Body} {bs : Bytes} (written : (ofBody b).bytes = .ok bs)
    (read : bodyIn? bs = some r) : r.service = b.service := by
  obtain ⟨f, hf, rfl⟩ := bodyIn?_eq_some_iff.mp read
  obtain ⟨hh, -, hb, -⟩ := decode_eq_ok_iff.mp hf
  obtain ⟨announced, rest, rfl⟩ := exists_of_bytes_eq_ok written
  rw [Header.parse_bytes_append] at hh
  rw [(Body.service_and_representable_of_parse hb).1, ← Except.ok.inj hh, Header.forBody]

/-- The frame of a body that can be said on the wire holds that body. -/
theorem bodyIn?_of_representable {b : Body} (h : b.Representable)
    (short : b.encodedLength ≤ 506) :
    ∃ bs, (ofBody b).bytes = .ok bs ∧ bodyIn? bs = some b :=
  ⟨_, bytes_ofBody h short,
    bodyIn?_eq_some_iff.mpr ⟨_, decode_bytes_ofBody h short, rfl⟩⟩

/-- A disconnect request can always be written, and is read back. -/
theorem bodyIn?_disconnectRequest (id : UInt8) (endpoint : Endpoint) :
    ∃ bytes, (ofBody (.disconnectRequest id endpoint)).bytes = .ok bytes ∧
      bodyIn? bytes = some (.disconnectRequest id endpoint) :=
  bodyIn?_of_representable trivial (Nat.le_of_ble_eq_true rfl)

end Frame

/-- A datagram with a written frame has the service type of the body. -/
theorem Datagram.service?_of_written {b : Body} {d : Datagram}
    (written : (Frame.ofBody b).bytes = .ok d.bytes) : d.service? = some b.service := by
  obtain ⟨announced, rest, same⟩ := Frame.exists_of_bytes_eq_ok written
  rw [service?, same, Header.parse_bytes_append]
  rfl

end KnxIp
