/-
  What a telegram is on the wire, and that reading and writing agree.

  `Carries` says which service and which data the octets behind the transport octet stand for: in
  a control packet there are none; in a data packet a value stands in the application octet if
  nothing else follows and the service has a value, and otherwise the data follow. `Spells` adds
  the other conditions on a telegram, and reading accepts exactly what is spelled
  (`parseContent_eq_ok_iff`). A sender may append a value below 64 too; writing never does, so
  several texts may spell one telegram, and the one that is written is among them
  (`spells_of_wellFormed`).

  Main statement: a telegram is written into every buffer with room for it, in as many octets as
  it announces, and these read back as the telegram (`encode_then_parse`). Every draft that is
  accepted and every text that is read yields a telegram, and so does every change of message
  code or source.
-/
import KnxIp.Proofs.Telegram.Octets
import KnxIp.Telegram.Codec
import KnxIp.Telegram.Draft

namespace KnxIp.Telegram

/-! ## The octets behind the transport octet -/

/-- The octets behind the transport octet `transport` carry a service and data. -/
inductive Carries (transport : UInt8) : Bytes → Option Apci → Bytes → Prop
  /-- A control packet has neither. -/
  | nothing (control : (Tpci.ofOctet transport).isData = false) : Carries transport [] none []
  /-- The value stands in the lower six bits of the application octet. -/
  | inline {application : UInt8} (data : (Tpci.ofOctet transport).isData = true)
      (value : (Apci.ofOctets transport application).carriesValue = true) :
      Carries transport [application] (some (.ofOctets transport application)) [application % 64]
  /-- The data follow the application octet; a value has to. -/
  | appended {application : UInt8} {rest : Bytes}
      (data : (Tpci.ofOctet transport).isData = true)
      (nonempty : (Apci.ofOctets transport application).carriesValue = true → rest ≠ []) :
      Carries transport (application :: rest) (some (.ofOctets transport application)) rest

theorem carries_nil_iff {transport : UInt8} {apci : Option Apci} {data : Bytes} :
    Carries transport [] apci data ↔
      (Tpci.ofOctet transport).isData = false ∧ apci = none ∧ data = [] := by
  constructor
  · intro h
    cases h with
    | nothing control => exact ⟨control, rfl, rfl⟩
  · rintro ⟨control, rfl, rfl⟩
    exact .nothing control

/-- Behind an application octet stands what reading finds there. -/
theorem carries_cons_iff {transport application : UInt8} {rest data : Bytes}
    {apci : Option Apci} :
    Carries transport (application :: rest) apci data ↔
      (Tpci.ofOctet transport).isData = true ∧
        apci = some (.ofOctets transport application) ∧
        data = readData (.ofOctets transport application) application rest := by
  constructor
  · intro h
    cases h with
    | inline hd value => exact ⟨hd, rfl, by simp [readData, value]⟩
    | appended hd nonempty =>
      refine ⟨hd, rfl, ?_⟩
      rw [readData, if_neg fun h => nonempty h.2 h.1]
  · rintro ⟨hd, rfl, rfl⟩
    unfold readData
    by_cases h : rest = [] ∧ (Apci.ofOctets transport application).carriesValue = true
    · obtain ⟨rfl, value⟩ := h
      rw [if_pos ⟨rfl, value⟩]
      exact .inline hd value
    · rw [if_neg h]
      exact .appended hd fun value e => h ⟨e, value⟩

/-! ## The texts of a telegram -/

namespace Content

/-- The octets from control field 1 to the destination. -/
def addressing (c : Content) : Bytes :=
  [c.control1.raw, c.control2.raw] ++ c.source.bytes ++ wordBytes c.destination.raw

/-- The octets before the number of those behind the transport octet. -/
def head (c : Content) : Bytes :=
  c.messageCode.code :: c.info.val.length.toUInt8 :: c.info.val ++ c.addressing

theorem length_head (c : Content) : c.head.length = 8 + c.info.val.length := by
  simp [head, addressing, IndividualAddress.bytes, wordBytes]
  omega

/-- A transport octet and what follows it spell the rest of a content. -/
structure Spells (c : Content) (transport : UInt8) (payload : Bytes) : Prop where
  size : payload.length ≤ 255
  addressType : c.control2.isGroup = c.destination.isGroup
  kind : Tpci.ofOctet transport = c.tpci
  carries : Carries transport payload c.apci c.data.val

end Content

theorem spells_of_parseFields {m : MessageCode} {i : AtMost maxAdditionalInfo} {bs : Bytes}
    {c : Content} (h : parseFields m i bs = .ok c) :
    c.messageCode = m ∧ c.info = i ∧ ∃ transport payload, c.Spells transport payload ∧
      bs = c.addressing ++ payload.length.toUInt8 :: transport :: payload := by
  unfold parseFields at h
  split at h
  · rename_i c1 c2 s1 s0 d1 d0 announced transport trailing
    dsimp only at h
    split at h
    · cases h
    · rename_i counts
      have count : trailing.length = announced.toNat := Decidable.not_not.mp counts
      have size : trailing.length ≤ 255 := by
        have := announced.toNat_lt
        omega
      have announces : announced = UInt8.ofNat trailing.length := by
        rw [count, UInt8.ofNat_toNat]
      split at h
      · rename_i hd
        cases trailing with
        | nil => cases h
        | cons application rest =>
          dsimp only at h
          split at h
          · rename_i data hdata
            cases h
            refine ⟨rfl, rfl, transport, application :: rest, ⟨size, by simp, rfl, ?_⟩, ?_⟩
            · exact carries_cons_iff.mpr ⟨hd, rfl, AtMost.val_of_ofBytes? hdata⟩
            · simpa [Content.addressing, IndividualAddress.bytes, IndividualAddress.ofOctets,
                wordBytes] using announces
          · cases h
      · rename_i hd
        split at h
        · cases h
        · rename_i zero
          cases h
          obtain rfl : trailing = [] := List.length_eq_zero_iff.mp (by omega)
          refine ⟨rfl, rfl, transport, [], ⟨size, by simp, rfl, ?_⟩, ?_⟩
          · exact .nothing (by simpa using hd)
          · simpa [Content.addressing, IndividualAddress.bytes, IndividualAddress.ofOctets,
              wordBytes] using announces
  · cases h

theorem parseFields_of_spells {c : Content} {transport : UInt8} {payload : Bytes}
    (h : c.Spells transport payload) :
    parseFields c.messageCode c.info
      (c.addressing ++ payload.length.toUInt8 :: transport :: payload) = .ok c := by
  obtain ⟨m, info, ⟨c1⟩, ⟨c2⟩, ⟨source⟩, destination, tpci, apci, data⟩ := c
  obtain ⟨size, addressType, kind, carries⟩ := h
  dsimp only at size addressType kind carries
  have announced : payload.length.toUInt8.toNat = payload.length := by
    simp only [Nat.toUInt8_eq, UInt8.toNat_ofNat']
    omega
  have hdest : Destination.ofRaw destination.raw (Control2.isGroup ⟨c2⟩) = destination := by
    rw [addressType, Destination.ofRaw_raw]
  simp only [Content.addressing, IndividualAddress.bytes, wordBytes, List.cons_append,
    List.nil_append, parseFields, announced, ne_eq, not_true_eq_false, if_false, word_high_low,
    hdest, IndividualAddress.ofOctets, kind]
  cases payload with
  | nil =>
    obtain ⟨control, rfl, empty⟩ := carries_nil_iff.mp carries
    obtain rfl : data = AtMost.nothing := Subtype.ext empty
    rw [kind] at control
    simp [control]
  | cons application rest =>
    obtain ⟨hd, rfl, hdata⟩ := carries_cons_iff.mp carries
    rw [kind] at hd
    simp only [hd, if_true, ← hdata, AtMost.ofBytes?_val]

theorem spells_of_parseContent {bs : Bytes} {c : Content} (h : parseContent bs = .ok c) :
    ∃ transport payload, c.Spells transport payload ∧
      bs = c.head ++ payload.length.toUInt8 :: transport :: payload := by
  unfold parseContent at h
  split at h
  · rename_i code infoLength rest
    split at h
    · cases h
    · rename_i m hm
      split at h
      · cases h
      · rename_i room
        split at h
        · cases h
        · rename_i info hinfo
          obtain ⟨rfl, rfl, transport, payload, spells, behind⟩ := spells_of_parseFields h
          refine ⟨transport, payload, spells, ?_⟩
          have hval := AtMost.val_of_ofBytes? hinfo
          have hlen : c.info.val.length = infoLength.toNat := by
            rw [hval, List.length_take]
            omega
          have hrest : rest = c.info.val ++ rest.drop infoLength.toNat := by
            rw [hval, List.take_append_drop]
          rw [behind] at hrest
          rw [hrest, Content.head, hlen, MessageCode.code_of_ofCode hm]
          simp
  · cases h

theorem parseContent_of_spells {c : Content} {transport : UInt8} {payload : Bytes}
    (h : c.Spells transport payload) :
    parseContent (c.head ++ payload.length.toUInt8 :: transport :: payload) = .ok c := by
  have bound := c.info.property
  have hlen : c.info.val.length.toUInt8.toNat = c.info.val.length := by
    simp only [Nat.toUInt8_eq, UInt8.toNat_ofNat']
    unfold maxAdditionalInfo at bound
    omega
  have room : ¬ (c.info.val ++ (c.addressing ++
      payload.length.toUInt8 :: transport :: payload)).length < c.info.val.length + 8 := by
    simp [Content.addressing, IndividualAddress.bytes, wordBytes]
  simp only [Content.head, List.cons_append, List.append_assoc, parseContent,
    MessageCode.ofCode_code, hlen, if_neg room, List.take_left, List.drop_left,
    AtMost.ofBytes?_val]
  exact parseFields_of_spells h

/-- Reading accepts exactly the texts that spell a content, and yields that content. -/
theorem parseContent_eq_ok_iff {bs : Bytes} {c : Content} :
    parseContent bs = .ok c ↔ ∃ transport payload, c.Spells transport payload ∧
      bs = c.head ++ payload.length.toUInt8 :: transport :: payload := by
  constructor
  · exact spells_of_parseContent
  · rintro ⟨transport, payload, spells, rfl⟩
    exact parseContent_of_spells spells

theorem parse_eq_ok_iff {bs : Bytes} {t : Telegram} :
    parse bs = .ok t ↔ parseContent bs = .ok t.toContent := by
  unfold parse
  split
  · rename_i c hc
    constructor
    · intro h; cases h; exact hc
    · intro h
      obtain ⟨d, wf⟩ := t
      obtain rfl : c = d := by rw [h] at hc; cases hc; rfl
      rfl
  · rename_i e he
    simp [he]

/-! ## The text that is written -/

namespace Content

theorem bytes_eq (c : Content) :
    c.bytes = c.head ++ c.npduLength :: c.transportOctet :: c.payload := by
  simp [bytes, head, addressing]

theorem isInline_iff {c : Content} : c.isInline = true ↔
    ∃ a v, c.apci = some a ∧ a.carriesValue = true ∧ c.data.val = [v] ∧ v.toNat < 64 := by
  unfold isInline
  cases c.apci with
  | none => simp
  | some a =>
    match c.data.val with
    | [] => simp
    | [v] => simp [UInt8.lt_iff_toNat_lt]
    | _ :: _ :: _ => simp

theorem payload_of_isInline {c : Content} {a : Apci} {v : UInt8} (h : c.isInline = true)
    (ha : c.apci = some a) (hv : c.data.val = [v]) :
    c.payload = [lowOctet a.code + v] := by
  simp [payload, ha, hv, h, lowOctet]

theorem payload_of_not_isInline {c : Content} {a : Apci} (h : c.isInline = false)
    (ha : c.apci = some a) : c.payload = lowOctet a.code :: c.data.val := by
  simp [payload, ha, h, lowOctet]

theorem length_payload_le (c : Content) : c.payload.length ≤ 255 := by
  have bound := c.data.property
  unfold maxApplicationData at bound
  cases ha : c.apci with
  | none => simp [payload, ha]
  | some a =>
    cases hi : c.isInline with
    | true =>
      obtain ⟨-, v, -, -, hv, -⟩ := isInline_iff.mp hi
      simp [payload_of_isInline hi ha hv]
    | false =>
      rw [payload_of_not_isInline hi ha, List.length_cons]
      omega

/-- The announced number of octets is the number of those that follow. -/
theorem npduLength_eq (c : Content) : c.npduLength = c.payload.length.toUInt8 := by
  cases ha : c.apci with
  | none => simp [npduLength, payload, ha]
  | some a =>
    cases hi : c.isInline with
    | true => simp [npduLength, payload, ha, hi]
    | false => simp [npduLength, payload, ha, hi, Nat.add_comm]

theorem toNat_npduLength (c : Content) : c.npduLength.toNat = c.payload.length := by
  have bound := c.length_payload_le
  rw [npduLength_eq, Nat.toUInt8_eq, UInt8.toNat_ofNat']
  omega

theorem length_bytes (c : Content) : c.bytes.length = c.encodedLength := by
  rw [bytes_eq, List.length_append, length_head, encodedLength, toNat_npduLength]
  simp only [List.length_cons]
  omega

theorem transportOctet_of_some {c : Content} {a : Apci} (ha : c.apci = some a) :
    c.transportOctet = c.tpci.octet + highOctet a.code := by
  simp [transportOctet, ha, highOctet]

/-- What is written for fields that fit together spells them. -/
theorem spells_of_wellFormed {c : Content} (h : c.WellFormed) :
    c.Spells c.transportOctet c.payload := by
  cases ha : c.apci with
  | none =>
    have control : c.tpci.isData = false := by simpa [ha] using h.service.symm
    have kind : Tpci.ofOctet c.transportOctet = c.tpci := by
      have := Tpci.ofOctet_octet_add h.tpci_inRange (x := 0) (by decide) (Or.inr rfl)
      simpa [transportOctet, ha] using this
    refine ⟨c.length_payload_le, h.addressType, kind, ?_⟩
    rw [ha, h.no_data ha, payload, ha]
    exact .nothing (by rw [kind, control])
  | some a =>
    have data : c.tpci.isData = true := by simpa [ha] using h.service.symm
    have transport := transportOctet_of_some ha
    have kind : Tpci.ofOctet c.transportOctet = c.tpci := by
      rw [transport]
      exact Tpci.ofOctet_octet_add h.tpci_inRange a.highOctet_code_le (Or.inl data)
    have upper : c.transportOctet % 4 = highOctet a.code := by
      rw [transport]
      exact Tpci.octet_add_mod data a.highOctet_code_le
    refine ⟨c.length_payload_le, h.addressType, kind, ?_⟩
    -- the two ways in which the service and its data share the octets
    cases hi : c.isInline with
    | true =>
      obtain ⟨a', v, ha', value, hv, small⟩ := isInline_iff.mp hi
      obtain rfl : a' = a := by rw [ha] at ha'; cases ha'; rfl
      rw [payload_of_isInline hi ha hv, ha, hv]
      have service := Apci.ofOctets_code_add value upper small
      have := @Carries.inline c.transportOctet (lowOctet a'.code + v) (kind ▸ data)
        (by rw [service]; exact value)
      rwa [service, Apci.lowOctet_code_add_mod value small] at this
    | false =>
      rw [payload_of_not_isInline hi ha, ha]
      have service := Apci.ofOctets_code (h.canonical a ha) upper
      have := @Carries.appended c.transportOctet (lowOctet a.code) c.data.val
        (kind ▸ data) (by rw [service]; exact h.value_nonempty a ha)
      rwa [service] at this

end Content

/-! ## Writing, then reading -/

theorem parse_bytes (t : Telegram) : parse t.bytes = .ok t := by
  rw [parse_eq_ok_iff, Content.bytes_eq, Content.npduLength_eq]
  exact parseContent_of_spells (Content.spells_of_wellFormed t.wellFormed)

theorem encode_eq_ok {t : Telegram} {room : Nat} (h : t.encodedLength ≤ room) :
    t.encode room = .ok t.bytes := by
  rw [encode, if_neg (by omega)]

/-- A telegram is written into any buffer with room for it: in as many octets as it announces,
with the rest of the buffer as it was; and these octets read back as the telegram. -/
theorem encode_then_parse (t : Telegram) (buffer : Bytes)
    (room : t.encodedLength ≤ buffer.length) :
    ∃ written : Bytes, written.length = t.encodedLength ∧
      intoBuffer t.encode buffer =
        .ok (t.encodedLength, written ++ buffer.drop t.encodedLength) ∧
      parse written = .ok t := by
  refine ⟨t.bytes, t.length_bytes, ?_, parse_bytes t⟩
  rw [intoBuffer, encode_eq_ok room]
  simp only [Except.map, overlay, t.length_bytes]

/-- A numbered request to read a property, with additional information. -/
theorem encode_then_parse_property_read :
    ∃ t : Telegram,
      Draft.build { ((Draft.forDestination (.individual ⟨0x1105⟩)).withData
        [0x00, 0x0B, 0x10, 0x01]).withInfo [0xAA, 0xBB] with
        tpci := .numberedData 5, apci := some .propertyValueRead } = .ok t ∧
      t.encodedLength ≤ (List.replicate 20 0xEE : Bytes).length ∧
      ∃ written : Bytes, written.length = t.encodedLength ∧
        intoBuffer t.encode (List.replicate 20 0xEE) =
          .ok (t.encodedLength, written ++ (List.replicate 20 0xEE).drop t.encodedLength) ∧
        parse written = .ok t :=
  ⟨_, rfl, by decide, encode_then_parse _ _ (by decide)⟩

end KnxIp.Telegram
