/-
  Which octet strings are read as telegrams, and what is wrong with the others.

  A telegram has its parts at places that depend on one octet, the length of the additional
  information. `Headed` says that everything up to the transport octet is there and can be part of
  a telegram, `Counted` that the number before the transport octet is that of the octets behind it
  and goes with the kind of packet.

  Main statement: reading accepts exactly what is headed and counted; a headed text that is not
  counted is out of range, and one that is not headed is a fault of framing
  (`exists_parse_iff`). There is a limit on the application data as well, but no octet announces
  more than the limit allows, so it never makes a difference (`length_readData_le`).
-/
import KnxIp.Failure
import KnxIp.Proofs.Telegram.RoundTrip

namespace KnxIp.Telegram

/-! ## The places of the parts -/

/-- How many octets of additional information are announced. -/
def infoLength (bs : Bytes) : Nat := (bs.getD 1 0).toNat

/-- How many octets are announced behind the transport octet. -/
def announced (bs : Bytes) : Nat := (bs.getD (8 + infoLength bs) 0).toNat

/-- The transport octet. -/
def transportAt (bs : Bytes) : UInt8 := bs.getD (9 + infoLength bs) 0

/-- Everything up to the transport octet is there, and nothing in it keeps the octets from being a
telegram. -/
structure Headed (bs : Bytes) : Prop where
  code : bs[0]? = some 0x11 ∨ bs[0]? = some 0x29 ∨ bs[0]? = some 0x2E
  info : infoLength bs ≤ 64
  room : 10 + infoLength bs ≤ bs.length

/-- As many octets as announced follow the transport octet: at least one in a data packet, where
the top bit of the transport octet is clear, and none in a control packet. -/
structure Counted (bs : Bytes) : Prop where
  size : bs.length = 10 + infoLength bs + announced bs
  data : transportAt bs < 0x80 → 1 ≤ announced bs
  control : 0x80 ≤ transportAt bs → announced bs = 0

/-- The parts of a text that is headed. -/
structure Layout where
  messageCode : MessageCode
  info : AtMost maxAdditionalInfo
  (control1 control2 : UInt8)
  (source1 source0 : UInt8)
  (destination1 destination0 : UInt8)
  count : UInt8
  transport : UInt8
  trailing : Bytes

namespace Layout

/-- What stands behind the additional information. -/
def fields (l : Layout) : Bytes :=
  l.control1 :: l.control2 :: l.source1 :: l.source0 :: l.destination1 :: l.destination0 ::
    l.count :: l.transport :: l.trailing

/-- The parts at their places. -/
def text (l : Layout) : Bytes :=
  l.messageCode.code :: l.info.val.length.toUInt8 :: (l.info.val ++ l.fields)

theorem infoLength_text (l : Layout) : infoLength l.text = l.info.val.length := by
  have bound := l.info.property
  unfold maxAdditionalInfo at bound
  show l.info.val.length.toUInt8.toNat = l.info.val.length
  rw [Nat.toUInt8_eq, UInt8.toNat_ofNat']
  omega

/-- The octets behind the additional information are found at their distance from its end. -/
theorem getD_text (l : Layout) (i : Nat) :
    l.text.getD (2 + i + l.info.val.length) 0 = l.fields.getD i 0 := by
  have place : 2 + i + l.info.val.length = (l.info.val.length + i) + 1 + 1 := by omega
  rw [place, List.getD_eq_getElem?_getD, List.getD_eq_getElem?_getD]
  show ((l.info.val ++ l.fields)[l.info.val.length + i]?).getD 0 = _
  rw [List.getElem?_append_right (Nat.le_add_right _ i), Nat.add_sub_cancel_left]

theorem announced_text (l : Layout) : announced l.text = l.count.toNat := by
  unfold announced
  rw [infoLength_text, l.getD_text 6]
  rfl

theorem transportAt_text (l : Layout) : transportAt l.text = l.transport := by
  unfold transportAt
  rw [infoLength_text, l.getD_text 7]
  rfl

theorem length_text (l : Layout) :
    l.text.length = 10 + l.info.val.length + l.trailing.length := by
  simp only [text, fields, List.length_cons, List.length_append]
  omega

theorem headed_text (l : Layout) : Headed l.text where
  code := by
    show some l.messageCode.code = _ ∨ some l.messageCode.code = _ ∨ some l.messageCode.code = _
    cases l.messageCode <;> decide
  info := by
    rw [infoLength_text]
    exact l.info.property
  room := by
    rw [infoLength_text, length_text]
    omega

theorem counted_text_iff (l : Layout) :
    Counted l.text ↔ l.trailing.length = l.count.toNat ∧
      (l.transport < 0x80 → 1 ≤ l.count.toNat) ∧ (0x80 ≤ l.transport → l.count.toNat = 0) := by
  constructor
  · intro ⟨size, data, control⟩
    rw [infoLength_text, length_text, announced_text] at size
    rw [transportAt_text, announced_text] at data control
    exact ⟨by omega, data, control⟩
  · intro ⟨size, data, control⟩
    rw [← transportAt_text, ← announced_text] at data control
    refine ⟨?_, data, control⟩
    rw [infoLength_text, length_text, announced_text, size]

end Layout

/-- Two octets, as much as the second of them announces, and eight more are the parts of a text. -/
theorem exists_layout (m : MessageCode) {i : UInt8} {rest : Bytes} (short : i.toNat ≤ 64)
    (room : i.toNat + 8 ≤ rest.length) : ∃ l : Layout, l.text = m.code :: i :: rest := by
  have taken : (rest.take i.toNat).length = i.toNat := by
    rw [List.length_take]
    omega
  have behind : 8 ≤ (rest.drop i.toNat).length := by
    rw [List.length_drop]
    omega
  match fields : rest.drop i.toNat, behind with
  | c1 :: c2 :: s1 :: s0 :: d1 :: d0 :: n :: t :: trailing, _ =>
    let info : AtMost maxAdditionalInfo := ⟨rest.take i.toNat, by rw [taken]; exact short⟩
    refine ⟨⟨m, info, c1, c2, s1, s0, d1, d0, n, t, trailing⟩, ?_⟩
    show m.code :: (rest.take i.toNat).length.toUInt8 ::
      (rest.take i.toNat ++ c1 :: c2 :: s1 :: s0 :: d1 :: d0 :: n :: t :: trailing) = _
    rw [← fields, List.take_append_drop, taken, Nat.toUInt8_eq, UInt8.ofNat_toNat]

/-- What is headed has all parts at their places. -/
theorem Headed.exists_text {bs : Bytes} (h : Headed bs) : ∃ l : Layout, l.text = bs := by
  obtain ⟨code, info, room⟩ := h
  obtain ⟨m, hm⟩ : ∃ m : MessageCode, bs[0]? = some m.code := by
    obtain h | h | h := code
    · exact ⟨.request, h⟩
    · exact ⟨.indication, h⟩
    · exact ⟨.confirmation, h⟩
  match bs with
  | [] => cases hm
  | [_] =>
    simp only [List.length_singleton] at room
    omega
  | c :: i :: rest =>
    obtain rfl : c = m.code := Option.some.inj hm
    have long : 10 + i.toNat ≤ rest.length + 1 + 1 := room
    exact exists_layout m info (by omega)

/-! ## Reading -/

/-- Reading finds the fields behind the additional information. -/
theorem parseContent_text (l : Layout) :
    parseContent l.text = parseFields l.messageCode l.info l.fields := by
  have hlen : l.info.val.length.toUInt8.toNat = l.info.val.length := l.infoLength_text
  have room : ¬ (l.info.val ++ l.fields).length < l.info.val.length + 8 := by
    simp only [Layout.fields, List.length_append, List.length_cons]
    omega
  simp only [Layout.text, parseContent, MessageCode.ofCode_code, hlen, if_neg room,
    List.take_left, List.drop_left, AtMost.ofBytes?_val]

/-- What is not headed is a fault of framing. -/
theorem parseContent_of_not_headed {bs : Bytes} (h : ¬ Headed bs) :
    ∃ f, parseContent bs = .error (.framing f) := by
  unfold parseContent
  split
  · next code infoLength rest =>
    split
    · exact ⟨_, rfl⟩
    · next m hm =>
      split
      · exact ⟨_, rfl⟩
      · next room =>
        split
        · exact ⟨_, rfl⟩
        · next info hinfo =>
          have short : infoLength.toNat ≤ 64 := by
            have bound := info.property
            rw [AtMost.val_of_ofBytes? hinfo, List.length_take] at bound
            unfold maxAdditionalInfo at bound
            omega
          obtain ⟨l, hl⟩ := exists_layout m short (Nat.not_lt.mp room)
          rw [MessageCode.code_of_ofCode hm] at hl
          exact absurd (hl ▸ l.headed_text) h
  · exact ⟨_, rfl⟩

/-- The data of a telegram are never too long. -/
theorem length_readData_le (apci : Apci) {application : UInt8} {rest : Bytes}
    (h : (application :: rest).length ≤ 255) :
    (readData apci application rest).length ≤ maxApplicationData := by
  unfold readData maxApplicationData
  rw [List.length_cons] at h
  split
  · exact Nat.le_add_left 1 253
  · omega

theorem isData_iff_lt {b : UInt8} : (Tpci.ofOctet b).isData = true ↔ b < 0x80 := by
  rw [Tpci.isData_ofOctet, decide_eq_true_iff, UInt8.lt_iff_toNat_lt]
  rfl

/-- The fields of a text that is counted are read. -/
theorem exists_parseFields {l : Layout} (h : Counted l.text) :
    ∃ c, parseFields l.messageCode l.info l.fields = .ok c := by
  obtain ⟨size, data, control⟩ := l.counted_text_iff.mp h
  simp only [Layout.fields, parseFields, size, ne_eq, not_true_eq_false, if_false]
  split
  · next isData =>
    have some := data (isData_iff_lt.mp isData)
    split
    · next none =>
      rw [none, List.length_nil] at size
      omega
    · next application rest trailing =>
      have bound : (application :: rest).length ≤ 255 := by
        have := l.count.toNat_lt
        rw [← trailing]
        omega
      have fits := length_readData_le (.ofOctets l.transport application) bound
      rw [AtMost.ofBytes?, dif_pos fits]
      exact ⟨_, rfl⟩
  · next isControl =>
    have top := UInt8.not_lt.mp fun lt => isControl (isData_iff_lt.mpr lt)
    rw [if_neg (not_not_intro (control top))]
    exact ⟨_, rfl⟩

/-- A text that is headed but not counted is out of range. -/
theorem parseFields_of_not_counted {l : Layout} (h : ¬ Counted l.text) :
    ∃ f : ValueFault, f.kind = .outOfRange ∧
      parseFields l.messageCode l.info l.fields = .error (.value f) := by
  simp only [Layout.fields, parseFields]
  split
  · exact ⟨_, rfl, rfl⟩
  · next size =>
    have size : l.trailing.length = l.count.toNat := Decidable.not_not.mp size
    split
    · next isData =>
      split
      · exact ⟨_, rfl, rfl⟩
      · next application rest trailing =>
        refine absurd (l.counted_text_iff.mpr ⟨size, fun _ => ?_, fun top => ?_⟩) h
        · rw [← size, trailing]
          exact Nat.le_add_left 1 _
        · exact absurd (isData_iff_lt.mp isData) (UInt8.not_lt.mpr top)
    · next isControl =>
      split
      · exact ⟨_, rfl, rfl⟩
      · next none =>
        refine absurd (l.counted_text_iff.mpr ⟨size, fun low => ?_, fun _ => ?_⟩) h
        · exact absurd (isData_iff_lt.mpr low) isControl
        · exact Decidable.not_not.mp none

theorem parse_eq_error_iff {bs : Bytes} {f : Fault} :
    parse bs = .error f ↔ parseContent bs = .error f := by
  unfold parse
  split
  · next c hc => simp [hc]
  · next e he => simp [he]

/-- A telegram is read exactly from the octets that are headed and counted. What is headed only is
out of range, and everything else is a fault of framing. -/
theorem exists_parse_iff (bs : Bytes) :
    ((∃ t, parse bs = .ok t) ↔ Headed bs ∧ Counted bs) ∧
      ((∃ f, parse bs = .error f ∧ (Failure.fault f).isOutOfRange = true) ↔
        Headed bs ∧ ¬ Counted bs) ∧
      ((∃ f, parse bs = .error f ∧ (Failure.fault f).isFraming = true) ↔ ¬ Headed bs) := by
  by_cases headed : Headed bs
  · obtain ⟨l, rfl⟩ := headed.exists_text
    have fields := parseContent_text l
    by_cases counted : Counted l.text
    · obtain ⟨c, hc⟩ := exists_parseFields counted
      have read : parse l.text = .ok ⟨c, wellFormed_of_parseContent (fields.trans hc)⟩ :=
        parse_eq_ok_iff.mpr (fields.trans hc)
      simp [read, headed, counted]
    · obtain ⟨f, range, hf⟩ := parseFields_of_not_counted counted
      have refused := parse_eq_error_iff.mpr (fields.trans hf)
      simp [refused, headed, counted, Failure.isOutOfRange, Failure.isValue, Failure.isFraming,
        range]
  · obtain ⟨f, hf⟩ := parseContent_of_not_headed headed
    have refused := parse_eq_error_iff.mpr hf
    simp [refused, headed, Failure.isOutOfRange, Failure.isValue, Failure.isFraming]

end KnxIp.Telegram
