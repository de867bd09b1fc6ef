/-
  What the header of a frame announces.

  The length of a body is counted without a bound, since a description may have any number of other
  blocks, but the total length has sixteen bits: both the length of the body and its sum with the
  size of the header are taken modulo 65536 (`totalLength_ofBody_eq_mod`). Without other blocks no
  body comes near that (`encodedLength_le`).

  Main statement. `totalLength_ofBody_eq_iff`: the frame of a body announces its own length exactly
  if the body has at most 65529 octets; so it does if the other blocks take at most 65433 octets,
  and so does every frame that can be written. A longer one loses the carry: with 1637 blocks of 40
  octets it announces six octets, the bare header (`totalLength_ofBody_blocks_carry`).
-/
import KnxIp.Proofs.Writing.Frame

namespace KnxIp

/-- Apart from its other blocks a description takes at most 88 octets. -/
theorem Description.encodedLength_le (d : Description) :
    d.encodedLength ≤ 88 + (d.others.flatMap OtherBlock.bytes).length := by
  have few : d.families.entries.length ≤ maxFamilies := d.families.size_le
  rw [length_others, encodedLength, DeviceInfo.size, Families.encodedLength]
  unfold maxFamilies at few
  omega

namespace Body

/-- How many octets the other blocks of a body take. -/
def othersLength (b : Body) : Nat := (b.others.flatMap OtherBlock.bytes).length

/-- The longest bodies are tunneled telegrams and answers to a search. -/
theorem encodedLength_le (b : Body) :
    b.encodedLength ≤ 333 ∨ b.encodedLength ≤ 96 + b.othersLength := by
  cases b with
  | searchResponse e d =>
    refine .inr ?_
    have := d.encodedLength_le
    show 8 + d.encodedLength ≤ 96 + (d.others.flatMap OtherBlock.bytes).length
    omega
  | descriptionResponse d =>
    refine .inr ?_
    have := d.encodedLength_le
    show d.encodedLength ≤ 96 + (d.others.flatMap OtherBlock.bytes).length
    omega
  | tunnelingRequest h t =>
    have := Frame.telegram_le t
    exact .inl (by rw [encodedLength]; omega)
  | routingIndication t =>
    have := Frame.telegram_le t
    exact .inl (by rw [encodedLength]; omega)
  | connectResponse c s data assigned =>
    rcases data with _ | e
    · exact .inl (by rw [encodedLength]; omega)
    · rcases assigned with _ | a <;> exact .inl (by rw [encodedLength]; omega)
  | _ => exact .inl (by rw [encodedLength]; omega)

end Body

namespace Frame

/-- The frame of a body announces the size of the header and the length of the body if the body has
at most 65529 octets, and less than that otherwise. All bodies without other blocks are short
enough, all those whose other blocks take at most 65433 octets are, and so are all whose frame can
be written. -/
theorem totalLength_ofBody_eq_iff (b : Body) :
    (ofBody b).header.totalLength.toNat = (Header.size + b.encodedLength) % 65536 ∧
    ((ofBody b).header.totalLength.toNat = Header.size + b.encodedLength ↔
      b.encodedLength ≤ 65529) ∧
    (b.othersLength ≤ 65433 →
      (ofBody b).header.totalLength.toNat = Header.size + b.encodedLength) ∧
    ∀ bs, (ofBody b).bytes = .ok bs →
      bs.length = Header.size + b.encodedLength ∧
        (ofBody b).header.totalLength.toNat = bs.length := by
  have announced := totalLength_ofBody_eq_mod b
  refine ⟨announced, ?_, fun few => ?_, fun bs written => ?_⟩
  · unfold Header.size at *
    omega
  · have := b.encodedLength_le
    unfold Header.size at *
    omega
  · obtain ⟨rfl, -, fits, -⟩ := encode_eq_ok_iff.mp written
    have whole : ((Header.forBody (ofBody b).header.service b.encodedLength.toUInt16).bytes ++
        b.bytes).length = Header.size + b.encodedLength := by
      rw [List.length_append, Header.length_bytes, b.length_bytes]
    have short : b.encodedLength ≤ 506 := Nat.le_of_add_le_add_left fits
    refine ⟨whole, ?_⟩
    rw [announced]
    refine Eq.trans ?_ whole.symm
    unfold Header.size
    omega

/-- A description with `n` blocks of 40 octets, each of a type that is not interpreted. -/
def blocks (n : Nat) : Description where
  device :=
    { medium := 0x02, status := 0, address := ⟨0x1100⟩, project := 0
      serial := ⟨0, 0xC5, 1, 2, 3, 4⟩, multicast := ⟨224, 0, 23, 12⟩
      hardware := ⟨2, 0, 0, 0, 0, 1⟩, name := "" }
  families := .ofEntries []
  others := List.replicate n ⟨0xFE, List.replicate 38 0⟩

theorem encodedLength_blocks (n : Nat) : (blocks n).encodedLength = 56 + 40 * n := by
  have others : (blocks n).others.foldr (·.encodedLength + ·) 0 = 40 * n := by
    show (List.replicate n _).foldr _ 0 = _
    induction n with
    | zero => rfl
    | succ n ih =>
      rw [List.replicate_succ, List.foldr_cons, ih, OtherBlock.encodedLength, List.length_replicate]
      omega
  rw [Description.encodedLength, others]
  rfl

theorem representable_blocks (n : Nat) : (blocks n).Representable := by
  refine ⟨⟨Nat.zero_le _, fun c none => absurd none List.not_mem_nil⟩, fun b hb => ?_⟩
  obtain rfl := List.eq_of_mem_replicate hb
  exact ⟨by decide, by decide, by decide⟩

/-- With 1636 blocks a description has 65496 octets, and its frame announces 6 more. -/
theorem totalLength_ofBody_blocks_1636 :
    (Body.descriptionResponse (blocks 1636)).encodedLength ≤ 65529 ∧
      (ofBody (.descriptionResponse (blocks 1636))).header.totalLength.toNat = 65502 := by
  have length : (Body.descriptionResponse (blocks 1636)).encodedLength = 65496 :=
    encodedLength_blocks 1636
  have short : (Body.descriptionResponse (blocks 1636)).encodedLength ≤ 65529 := by omega
  obtain ⟨-, announces, -⟩ := totalLength_ofBody_eq_iff (.descriptionResponse (blocks 1636))
  exact ⟨short, (announces.mpr short).trans (by rw [length]; rfl)⟩

/-- With one block more it has 65536 octets, and its frame announces 6 in all, although each block
can stand in a description. -/
theorem totalLength_ofBody_blocks_carry :
    (Body.descriptionResponse (blocks 1637)).Representable ∧
      (Body.descriptionResponse (blocks 1637)).encodedLength = 65536 ∧
      (ofBody (.descriptionResponse (blocks 1637))).header.totalLength = 6 ∧
      (ofBody (.descriptionResponse (blocks 1637))).header.totalLength.toNat ≠
        Header.size + (Body.descriptionResponse (blocks 1637)).encodedLength := by
  have length : (Body.descriptionResponse (blocks 1637)).encodedLength = 65536 :=
    encodedLength_blocks 1637
  have announced : (ofBody (.descriptionResponse (blocks 1637))).header.totalLength = 6 := by
    show 6 + (Body.descriptionResponse (blocks 1637)).encodedLength.toUInt16 = 6
    rw [length]
    rfl
  refine ⟨representable_blocks 1637, length, announced, ?_⟩
  rw [announced, length]
  decide

end Frame
end KnxIp
