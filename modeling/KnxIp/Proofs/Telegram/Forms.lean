/-
  The two forms of a value: inside the application octet, or behind it.

  Writing puts a single value octet below 64 into the application octet; reading takes either
  form. So the text of a telegram is as long as the telegram announces, or one octet longer, and
  the latter exactly if it appends a value that would fit into the application octet
  (`encodedLength_eq_iff_of_parse`).
-/
import KnxIp.Proofs.Telegram.RoundTrip

namespace KnxIp.Telegram

/-- The text `bs` of a telegram appends its value although the application octet has room for it:
two octets are announced behind the transport octet where writing needs one. -/
def AppendsSmallValue (bs : Bytes) (t : Telegram) : Prop :=
  t.isInline = true ∧ bs[8 + t.info.val.length]? = some 2

namespace Content

theorem length_payload_of_isInline {c : Content} (h : c.isInline = true) :
    c.payload.length = 1 := by
  obtain ⟨a, v, ha, -, hv, -⟩ := isInline_iff.mp h
  rw [payload_of_isInline h ha hv]
  rfl

/-- What is read is as long as what is written, but for an appended value below 64. -/
theorem Spells.length {c : Content} {transport : UInt8} {payload : Bytes}
    (h : c.Spells transport payload) :
    payload.length = c.payload.length ∨ (c.isInline = true ∧ payload.length = 2) := by
  have carries := h.carries
  -- service and data stand as indices here: they need names before the cases are told apart
  generalize ha : c.apci = apci, hv : c.data.val = data at carries
  cases carries with
  | nothing control =>
    left
    rw [payload, ha]
  | @inline application hd value =>
    have small : (application % 64).toNat < 64 := by
      rw [UInt8.toNat_mod]
      exact Nat.mod_lt _ (by decide)
    left
    rw [length_payload_of_isInline (isInline_iff.mpr ⟨_, _, ha, value, hv, small⟩)]
    rfl
  | appended hd nonempty =>
    -- only here the writer may choose the other form
    cases hi : c.isInline with
    | true =>
      obtain ⟨-, v, -, -, one, -⟩ := isInline_iff.mp hi
      right
      rw [← hv, one]
      exact ⟨rfl, rfl⟩
    | false =>
      left
      rw [payload_of_not_isInline hi ha, List.length_cons, List.length_cons, hv]

end Content

/-- What is read from a text is as long as the text, unless the text appends a small value. -/
theorem encodedLength_eq_iff_of_parse {bs : Bytes} {t : Telegram} (h : parse bs = .ok t) :
    t.encodedLength = bs.length ↔ ¬ AppendsSmallValue bs t := by
  obtain ⟨transport, payload, spells, rfl⟩ := parseContent_eq_ok_iff.mp (parse_eq_ok_iff.mp h)
  have size := spells.size
  have announced : (t.head ++ payload.length.toUInt8 :: transport :: payload)[8 +
      t.info.val.length]? = some payload.length.toUInt8 := by
    rw [← t.length_head, List.getElem?_append_right (Nat.le_refl _), Nat.sub_self]
    rfl
  have two : payload.length.toUInt8 = 2 ↔ payload.length = 2 := by
    simp only [← UInt8.toNat_inj, Nat.toUInt8_eq, UInt8.toNat_ofNat', UInt8.reduceToNat]
    omega
  have long : t.encodedLength =
      (t.head ++ payload.length.toUInt8 :: transport :: payload).length ↔
      t.payload.length = payload.length := by
    rw [Content.encodedLength, t.toNat_npduLength, List.length_append, t.length_head,
      List.length_cons, List.length_cons]
    omega
  rw [long, AppendsSmallValue, announced, Option.some_inj, two]
  constructor
  · rintro same ⟨hi, more⟩
    rw [Content.length_payload_of_isInline hi] at same
    omega
  · intro canonical
    rcases spells.length with same | appended
    · exact same.symm
    · exact absurd appended canonical

end KnxIp.Telegram
