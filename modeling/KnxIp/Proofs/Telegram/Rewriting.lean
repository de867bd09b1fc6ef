/-
  What is left of a telegram that is read and written again.

  Reading keeps the value of a telegram, not its text. It drops the bits of the transport octet
  that hold the sequence number in other packets, and the lower six bits of the application octet
  if the code of the service has four bits only and no value stands there; and a value below 64
  that was appended is written into the application octet. `Canonical` says that a text has
  nothing of this, by the octets alone.

  Main statement: what is written for a text that was read is read as the same telegram; it is the
  text itself exactly if that is canonical, and it is one octet shorter exactly if the text appends
  a value below 64 (`rewriting_of_parse`).
-/
import KnxIp.Proofs.Telegram.Forms
import KnxIp.Proofs.Telegram.Grammar

namespace KnxIp

/-! ## The packet kind -/

namespace Tpci

/-- What is kept of a transport octet: bits 7 and 6, bits 5 to 2 in a numbered packet, which has bit
6 set, and bits 1 and 0 in a control packet, which has bit 7 set. -/
theorem toNat_octet_ofOctet (b : UInt8) : (ofOctet b).octet.toNat =
    b.toNat / 64 * 64 + (if b.toNat / 64 % 2 = 1 then b.toNat / 4 % 16 * 4 else 0) +
      (if b.toNat < 128 then 0 else b.toNat % 4) := by
  have lt := b.toNat_lt
  have top : (b / 64).toNat = b.toNat / 64 := UInt8.toNat_div ..
  unfold ofOctet
  split
  · next e =>
    rw [e] at top
    simp only [octet, UInt8.reduceToNat] at top ⊢
    split <;> split <;> omega
  · next e =>
    rw [e] at top
    simp only [octet, UInt8.toNat_add, UInt8.toNat_mul, UInt8.toNat_mod, UInt8.toNat_div,
      UInt8.reduceToNat] at top ⊢
    split <;> split <;> omega
  · next e =>
    rw [e] at top
    simp only [octet, UInt8.toNat_add, UInt8.toNat_mod, UInt8.reduceToNat] at top ⊢
    split <;> split <;> omega
  · next h0 h1 h2 =>
    have n0 : (b / 64).toNat ≠ 0 := fun e => h0 (UInt8.toNat_inj.mp e)
    have n1 : (b / 64).toNat ≠ 1 := fun e => h1 (UInt8.toNat_inj.mp e)
    have n2 : (b / 64).toNat ≠ 2 := fun e => h2 (UInt8.toNat_inj.mp e)
    simp only [octet, UInt8.toNat_add, UInt8.toNat_mul, UInt8.toNat_mod, UInt8.toNat_div,
      UInt8.reduceToNat] at top n0 n1 n2 ⊢
    split <;> split <;> omega

/-- Bits 5 to 2 of a transport octet are zero in an unnumbered packet, which has bit 6 clear. -/
def SequenceClear (b : UInt8) : Prop := b / 64 % 2 = 0 → b / 4 % 16 = 0

theorem sequenceClear_iff {b : UInt8} :
    SequenceClear b ↔ (b.toNat / 64 % 2 = 0 → b.toNat / 4 % 16 = 0) := by
  simp only [SequenceClear, ← UInt8.toNat_inj, UInt8.toNat_mod, UInt8.toNat_div, UInt8.reduceToNat]

/-- A control packet is written as it was read if no bit of it was dropped. -/
theorem octet_ofOctet_eq_iff {b : UInt8} (control : (ofOctet b).isData = false) :
    (ofOctet b).octet = b ↔ SequenceClear b := by
  rw [isData_ofOctet, decide_eq_false_iff_not] at control
  rw [← UInt8.toNat_inj, toNat_octet_ofOctet, if_neg control, sequenceClear_iff]
  split <;> omega

/-- So is a data packet, with the two bits of the service code. -/
theorem octet_ofOctet_add_eq_iff {b : UInt8} (data : (ofOctet b).isData = true) :
    (ofOctet b).octet + b % 4 = b ↔ SequenceClear b := by
  rw [isData_ofOctet, decide_eq_true_iff] at data
  rw [sequenceClear_iff, ← UInt8.toNat_inj]
  simp only [UInt8.toNat_add, UInt8.toNat_mod, toNat_octet_ofOctet, if_pos data,
    UInt8.reduceToNat]
  split <;> omega

end Tpci

/-! ## The service -/

namespace Apci

/-- The upper four bits of a ten-bit code. -/
def upper (code : UInt16) : UInt16 := code % 1024 / 64 * 64

theorem toNat_upper (c : UInt16) : (upper c).toNat = c.toNat % 1024 / 64 * 64 := by
  simp only [upper, UInt16.toNat_mul, UInt16.toNat_div, UInt16.toNat_mod, UInt16.reduceToNat]
  omega

theorem isExtendedCode_iff {c : UInt16} :
    isExtendedCode c = true ↔ upper c = 0x2C0 ∨ upper c = 0x3C0 := by
  simp only [isExtendedCode, upper, decide_eq_true_eq, ← UInt16.toNat_inj, UInt16.toNat_div,
    UInt16.toNat_mod, UInt16.toNat_mul, UInt16.reduceToNat, UInt16.reduceDiv]
  omega

theorem significant_of_short {c : UInt16} (h : isExtendedCode c = false) :
    significant c = upper c := by
  rw [significant, h]
  rfl

theorem significant_of_extended {c : UInt16} (h : isExtendedCode c = true) :
    significant c = c % 1024 := by
  rw [significant, if_pos h]

theorem upper_significant (c : UInt16) : upper (significant c) = upper c := by
  apply UInt16.toNat_inj.mp
  cases h : isExtendedCode c with
  | true =>
    simp only [significant_of_extended h, toNat_upper, UInt16.toNat_mod, UInt16.reduceToNat]
    omega
  | false =>
    rw [significant_of_short h, toNat_upper, toNat_upper]
    omega

/-- Every code of four bits, but for the two with which extended ones begin, is that of a service
with a name. -/
theorem exists_named_code : ∀ n < 16, n ≠ 11 → n ≠ 15 → ∃ a ∈ named, a.code.toNat = n * 64 := by
  decide

theorem exists_named_of_short {c : UInt16} (h : isExtendedCode c = false) :
    ∃ a ∈ named, significant c = a.code := by
  have short : upper c ≠ 0x2C0 ∧ upper c ≠ 0x3C0 := by
    simpa [h] using (isExtendedCode_iff (c := c)).symm
  simp only [ne_eq, ← UInt16.toNat_inj, toNat_upper, UInt16.reduceToNat] at short
  obtain ⟨a, mem, code⟩ := exists_named_code (c.toNat % 1024 / 64) (by omega) (by omega) (by omega)
  refine ⟨a, mem, ?_⟩
  rw [significant_of_short h, ← UInt16.toNat_inj, code, toNat_upper]

/-- The service with a code has the bits of it that count. -/
theorem code_ofCode (c : UInt16) : (ofCode c).code = significant c := by
  cases h : isExtendedCode c with
  | false =>
    obtain ⟨a, mem, code⟩ := exists_named_of_short h
    rw [ofCode_of_significant mem code, code]
  | true =>
    unfold ofCode
    cases found : named.find? (·.code = significant c) with
    | some a => simpa using List.find?_some found
    | none =>
      rw [significant_of_extended h]
      exact mod_mod_code c

/-- No extended code has the upper four bits of a service that carries a value. -/
theorem short_of_upper {c : UInt16} (h : upper c = 0x040 ∨ upper c = 0x080) :
    isExtendedCode c = false := by
  rw [← Bool.not_eq_true, isExtendedCode_iff]
  obtain h | h := h <;> rw [h] <;> decide

/-- The services that carry a value are told by the upper four bits. -/
theorem carriesValue_ofCode_iff {c : UInt16} :
    (ofCode c).carriesValue = true ↔ upper c = 0x040 ∨ upper c = 0x080 := by
  rw [carriesValue_iff]
  constructor
  · intro h
    have bits := upper_significant c
    rw [← code_ofCode] at bits
    rw [← bits]
    obtain h | h := h <;> rw [h] <;> decide
  · intro h
    rw [← significant_of_short (short_of_upper h)] at h
    obtain h | h := h
    · exact .inr (ofCode_of_significant (by decide) h)
    · exact .inl (ofCode_of_significant (by decide) h)

/-- The code in a transport octet and an application octet. -/
def codeOf (transport application : UInt8) : UInt16 := word (transport % 4) application

theorem toNat_codeOf (transport application : UInt8) :
    (codeOf transport application).toNat = transport.toNat % 4 * 256 + application.toNat := by
  simp only [codeOf, toNat_word, UInt8.toNat_mod, UInt8.reduceToNat]
  omega

theorem ofOctets_eq_ofCode (transport application : UInt8) :
    ofOctets transport application = ofCode (codeOf transport application) := by
  have mod : transport.toUInt16 % 4 = (transport % 4).toUInt16 := by
    apply UInt16.toNat_inj.mp
    rw [UInt16.toNat_mod, UInt8.toNat_toUInt16, UInt8.toNat_toUInt16, UInt8.toNat_mod]
    rfl
  rw [ofOctets, mod]
  rfl

theorem toNat_significant_codeOf (transport application : UInt8) :
    (significant (codeOf transport application)).toNat =
      transport.toNat % 4 * 256 +
        if isExtendedCode (codeOf transport application) then application.toNat
        else application.toNat / 64 * 64 := by
  have lt := application.toNat_lt
  cases h : isExtendedCode (codeOf transport application) with
  | true =>
    simp only [significant_of_extended h, UInt16.toNat_mod, toNat_codeOf, UInt16.reduceToNat,
      if_true]
    omega
  | false =>
    rw [significant_of_short h, toNat_upper, toNat_codeOf]
    simp only [Bool.false_eq_true, if_false]
    omega

/-- The two bits of the code in a transport octet are kept. -/
theorem highOctet_code_ofOctets (transport application : UInt8) :
    highOctet (ofOctets transport application).code = transport % 4 := by
  have lt := application.toNat_lt
  apply UInt8.toNat_inj.mp
  simp only [ofOctets_eq_ofCode, code_ofCode, toNat_highOctet, toNat_significant_codeOf,
    UInt8.toNat_mod, UInt8.reduceToNat]
  split <;> omega

/-- The application octet is kept if its code is extended or there is nothing below it. -/
theorem lowOctet_code_ofOctets_eq_iff (transport application : UInt8) :
    lowOctet (ofOctets transport application).code = application ↔
      (isExtendedCode (codeOf transport application) = false → application % 64 = 0) := by
  have lt := application.toNat_lt
  simp only [← UInt8.toNat_inj, ofOctets_eq_ofCode, code_ofCode, toNat_lowOctet,
    toNat_significant_codeOf, UInt8.toNat_mod, UInt8.reduceToNat]
  cases isExtendedCode (codeOf transport application) with
  | true =>
    simp only [if_true, Bool.true_eq_false, false_implies, iff_true]
    omega
  | false =>
    simp only [Bool.false_eq_true, if_false, true_implies]
    omega

/-- An application octet with a value is the sum of its parts. -/
theorem lowOctet_code_ofOctets_add {transport application : UInt8}
    (value : (ofOctets transport application).carriesValue = true) :
    lowOctet (ofOctets transport application).code + application % 64 = application := by
  have lt := application.toNat_lt
  rw [ofOctets_eq_ofCode] at value
  have short := short_of_upper (carriesValue_ofCode_iff.mp value)
  apply UInt8.toNat_inj.mp
  simp only [UInt8.toNat_add, UInt8.toNat_mod, ofOctets_eq_ofCode, code_ofCode, toNat_lowOctet,
    toNat_significant_codeOf, short, Bool.false_eq_true, if_false, UInt8.reduceToNat]
  omega

end Apci

/-! ## Texts that are written as they were read -/

namespace Telegram

/-- The application octet. -/
def applicationAt (bs : Bytes) : UInt8 := bs.getD (10 + infoLength bs) 0

/-- The upper four bits of the service code. -/
def upperAt (bs : Bytes) : UInt16 := Apci.upper (Apci.codeOf (transportAt bs) (applicationAt bs))

/-- The text of a data packet whose service carries a value: a response or a write. -/
def HoldsValue (bs : Bytes) : Prop :=
  transportAt bs < 0x80 ∧ (upperAt bs = 0x040 ∨ upperAt bs = 0x080)

/-- A single octet of value is appended that would fit into the application octet. -/
def Overlong (bs : Bytes) : Prop :=
  HoldsValue bs ∧ announced bs = 2 ∧ bs.getD (11 + infoLength bs) 0 ≤ 0x3F

/-- Behind a code of four bits the lower six bits of the application octet are zero, unless they
are the value. -/
def FreeBitsClear (bs : Bytes) : Prop :=
  transportAt bs < 0x80 → upperAt bs ≠ 0x2C0 → upperAt bs ≠ 0x3C0 →
    ¬ (HoldsValue bs ∧ announced bs = 1) → applicationAt bs % 64 = 0

/-- Nothing in the text is dropped or moved. -/
structure Canonical (bs : Bytes) : Prop where
  transport : Tpci.SequenceClear (transportAt bs)
  application : FreeBitsClear bs
  compact : ¬ Overlong bs

namespace Layout

theorem applicationAt_text (l : Layout) : applicationAt l.text = l.trailing.getD 0 0 := by
  unfold applicationAt
  rw [infoLength_text, l.getD_text 8]
  rfl

theorem appendedAt_text (l : Layout) :
    l.text.getD (11 + infoLength l.text) 0 = l.trailing.getD 1 0 := by
  rw [infoLength_text, l.getD_text 9]
  rfl

/-- A text holds a value if reading finds a service that carries one. -/
theorem holdsValue_text_iff {l : Layout} {application : UInt8} {rest : Bytes}
    (trailing : l.trailing = application :: rest) :
    HoldsValue l.text ↔ (Tpci.ofOctet l.transport).isData = true ∧
      (Apci.ofOctets l.transport application).carriesValue = true := by
  unfold HoldsValue upperAt
  rw [transportAt_text, applicationAt_text, trailing, isData_iff_lt, Apci.ofOctets_eq_ofCode,
    Apci.carriesValue_ofCode_iff]
  rfl

/-- Which bits of the application octet have to be clear if data follow it. -/
theorem freeBitsClear_text_iff {l : Layout} {application : UInt8} {rest : Bytes}
    (trailing : l.trailing = application :: rest)
    (count : announced l.text = l.trailing.length)
    (isData : (Tpci.ofOctet l.transport).isData = true)
    (nonempty : (Apci.ofOctets l.transport application).carriesValue = true → rest ≠ []) :
    FreeBitsClear l.text ↔
      (Apci.isExtendedCode (Apci.codeOf l.transport application) = false →
        application % 64 = 0) := by
  have low : transportAt l.text < 0x80 := by rw [transportAt_text, ← isData_iff_lt, isData]
  have more : ¬ (HoldsValue l.text ∧ announced l.text = 1) := by
    intro ⟨holds, one⟩
    rw [count, trailing, List.length_cons] at one
    exact nonempty ((holdsValue_text_iff trailing).mp holds).2
      (List.length_eq_zero_iff.mp (Nat.succ.inj one))
  have octet : applicationAt l.text = application := by
    rw [applicationAt_text, trailing]
    rfl
  have upper : upperAt l.text = Apci.upper (Apci.codeOf l.transport application) := by
    rw [upperAt, transportAt_text, octet]
  rw [← Bool.not_eq_true, Apci.isExtendedCode_iff, ← upper, FreeBitsClear, octet]
  constructor
  · intro clear short
    exact clear low (fun e => short (.inl e)) (fun e => short (.inr e)) more
  · intro clear _ user property _
    exact clear fun extended => extended.elim user property

end Layout

namespace Content

/-- The parts of a text that spells a content. -/
def layout (c : Content) (transport : UInt8) (payload : Bytes) : Layout where
  messageCode := c.messageCode
  info := c.info
  control1 := c.control1.raw
  control2 := c.control2.raw
  source1 := highOctet c.source.raw
  source0 := lowOctet c.source.raw
  destination1 := highOctet c.destination.raw
  destination0 := lowOctet c.destination.raw
  count := payload.length.toUInt8
  transport
  trailing := payload

variable {c : Content} {transport : UInt8} {payload : Bytes}

theorem text_layout : (c.layout transport payload).text =
    c.head ++ payload.length.toUInt8 :: transport :: payload := by
  simp [Layout.text, Layout.fields, layout, head, addressing, IndividualAddress.bytes, wordBytes]

theorem Spells.announced_text (h : c.Spells transport payload) :
    announced (c.layout transport payload).text = payload.length := by
  have size := h.size
  rw [Layout.announced_text]
  show payload.length.toUInt8.toNat = payload.length
  rw [Nat.toUInt8_eq, UInt8.toNat_ofNat']
  omega

/-- The transport octet is written as it was read exactly if none of its bits was dropped. -/
theorem Spells.transportOctet_eq_iff (h : c.Spells transport payload) :
    c.transportOctet = transport ↔ Tpci.SequenceClear transport := by
  have data (application : UInt8) (isData : (Tpci.ofOctet transport).isData = true)
      (ha : c.apci = some (.ofOctets transport application)) :
      c.transportOctet = transport ↔ Tpci.SequenceClear transport := by
    rw [transportOctet_of_some ha, ← h.kind, Apci.highOctet_code_ofOctets]
    exact Tpci.octet_ofOctet_add_eq_iff isData
  have carries := h.carries
  generalize ha : c.apci = apci, c.data.val = found at carries
  cases carries with
  | nothing control =>
    rw [transportOctet, ha]
    show c.tpci.octet = transport ↔ _
    rw [← h.kind]
    exact Tpci.octet_ofOctet_eq_iff control
  | inline isData value => exact data _ isData ha
  | appended isData nonempty => exact data _ isData ha

/-- A text is overlong if two octets stand for a value that is written as one. -/
theorem Spells.overlong_iff (h : c.Spells transport payload) :
    Overlong (c.layout transport payload).text ↔ c.isInline = true ∧ payload.length = 2 := by
  unfold Overlong
  rw [h.announced_text, Layout.appendedAt_text]
  show _ ∧ _ ∧ payload.getD 1 0 ≤ 0x3F ↔ _
  have carries := h.carries
  generalize ha : c.apci = apci, hv : c.data.val = data at carries
  cases carries with
  | nothing control => simp
  | inline isData value => simp
  | @appended application _ isData nonempty =>
    rw [Layout.holdsValue_text_iff rfl, isInline_iff]
    constructor
    · intro ⟨⟨_, value⟩, two, small⟩
      obtain ⟨v, rfl⟩ : ∃ v, data = [v] := List.length_eq_one_iff.mp (Nat.succ.inj two)
      have lt : v.toNat < 64 := Nat.lt_succ_of_le (UInt8.le_iff_toNat_le.mp small)
      exact ⟨⟨_, v, ha, value, hv, lt⟩, two⟩
    · intro ⟨⟨a, v, ha', value, hv', lt⟩, two⟩
      rw [ha, Option.some.injEq] at ha'
      rw [hv] at hv'
      subst ha' hv'
      exact ⟨⟨isData, value⟩, two, UInt8.le_iff_toNat_le.mpr (Nat.le_of_lt_succ lt)⟩

/-- The octets behind it are written as they were read exactly if the application octet has
nothing below its code that is dropped, and the text is not overlong. -/
theorem Spells.payload_eq_iff (h : c.Spells transport payload) :
    c.payload = payload ↔ FreeBitsClear (c.layout transport payload).text ∧
      ¬ Overlong (c.layout transport payload).text := by
  let text := (c.layout transport payload).text
  have count : announced text = payload.length := h.announced_text
  have overlong := h.overlong_iff
  have carries := h.carries
  generalize ha : c.apci = apci, hv : c.data.val = data at carries
  cases carries with
  | nothing control =>
    have top : ¬ transportAt text < 0x80 := by
      rw [Layout.transportAt_text, ← isData_iff_lt]
      exact Bool.eq_false_iff.mp control
    rw [payload, ha]
    exact iff_of_true rfl ⟨fun low => absurd low top, fun wasted => top wasted.1.1⟩
  | @inline application isData value =>
    have small : (application % 64).toNat < 64 := by
      rw [UInt8.toNat_mod]
      exact Nat.mod_lt _ (by decide)
    have holds : HoldsValue text := (Layout.holdsValue_text_iff rfl).mpr ⟨isData, value⟩
    rw [payload_of_isInline (isInline_iff.mpr ⟨_, _, ha, value, hv, small⟩) ha hv,
      Apci.lowOctet_code_ofOctets_add value]
    refine iff_of_true rfl ⟨fun _ _ _ more => absurd ⟨holds, count⟩ more, fun wasted => ?_⟩
    exact absurd (overlong.mp wasted).2 (by decide : (1 : Nat) ≠ 2)
  | @appended application _ isData nonempty =>
    cases hi : c.isInline with
    | true =>
      -- the value moves into the application octet, so there is one octet less
      obtain ⟨-, v, -, -, one, -⟩ := isInline_iff.mp hi
      have two : (application :: data).length = 2 := by
        rw [← hv, one]
        rfl
      refine iff_of_false (fun same => ?_) fun kept => kept.2 (overlong.mpr ⟨hi, two⟩)
      have alone := length_payload_of_isInline hi
      rw [same, two] at alone
      cases alone
    | false =>
      have compact : ¬ Overlong text := by
        intro wasted
        rw [(overlong.mp wasted).1] at hi
        cases hi
      rw [payload_of_not_isInline hi ha, hv, List.cons.injEq, and_iff_left rfl,
        and_iff_left compact, Apci.lowOctet_code_ofOctets_eq_iff]
      exact (Layout.freeBitsClear_text_iff rfl count isData nonempty).symm

/-- A text is written as it was read exactly if it is canonical. -/
theorem Spells.bytes_eq_iff (h : c.Spells transport payload) :
    c.bytes = (c.layout transport payload).text ↔
      Canonical (c.layout transport payload).text := by
  have kind : Tpci.SequenceClear (transportAt (c.layout transport payload).text) ↔
      Tpci.SequenceClear transport := by
    rw [Layout.transportAt_text]
    rfl
  have parts : c.bytes = (c.layout transport payload).text ↔
      c.transportOctet = transport ∧ c.payload = payload := by
    rw [bytes_eq, npduLength_eq, text_layout, List.append_cancel_left_eq, List.cons.injEq,
      List.cons.injEq]
    constructor
    · exact fun same => same.2
    · intro same
      exact ⟨by rw [same.2], same⟩
  rw [parts, h.transportOctet_eq_iff, h.payload_eq_iff]
  constructor
  · intro ⟨clear, application, compact⟩
    exact ⟨kind.mpr clear, application, compact⟩
  · intro ⟨clear, application, compact⟩
    exact ⟨kind.mp clear, application, compact⟩

end Content

/-- What is written for a text that was read is read as the same telegram. It is that text exactly
if nothing in it is dropped or moved, and as long as that text unless the text appends a value
that fits into the application octet: then it is one octet shorter. -/
theorem rewriting_of_parse {bs : Bytes} {t : Telegram} (h : parse bs = .ok t) :
    ∃ written : Bytes,
      (∀ buffer : Bytes, t.encodedLength ≤ buffer.length → intoBuffer t.encode buffer =
        .ok (written.length, written ++ buffer.drop written.length)) ∧
      parse written = .ok t ∧ (written = bs ↔ Canonical bs) ∧
      (Overlong bs → written.length + 1 = bs.length) ∧
      (¬ Overlong bs → written.length = bs.length) := by
  obtain ⟨transport, payload, spells, text⟩ := parseContent_eq_ok_iff.mp (parse_eq_ok_iff.mp h)
  rw [← Content.text_layout] at text
  subst text
  have size : t.bytes.length + payload.length =
      (t.layout transport payload).text.length + t.payload.length := by
    rw [t.bytes_eq, Content.text_layout]
    simp only [List.length_append, List.length_cons]
    omega
  refine ⟨t.bytes, fun buffer room => ?_, parse_bytes t, spells.bytes_eq_iff, ?_, ?_⟩
  · rw [intoBuffer, encode_eq_ok room]
    rfl
  · intro overlong
    obtain ⟨hi, two⟩ := spells.overlong_iff.mp overlong
    have one := Content.length_payload_of_isInline hi
    omega
  · intro compact
    have same : payload.length = t.payload.length :=
      spells.length.resolve_right fun appended => compact (spells.overlong_iff.mpr appended)
    omega

/-- An indication that a group has the value 5, which is appended; the bits of a sequence number
are set although the packet is unnumbered. -/
def looseWrite : Bytes :=
  [0x29, 0x00, 0xBC, 0xE0, 0x11, 0x01, 0x0A, 0x03, 0x02, 0x3C, 0x81, 0x05]

theorem rewriting_of_parse_looseWrite :
    ∃ t, parse looseWrite = .ok t ∧ ∃ written : Bytes,
      (∀ buffer : Bytes, t.encodedLength ≤ buffer.length → intoBuffer t.encode buffer =
        .ok (written.length, written ++ buffer.drop written.length)) ∧
      parse written = .ok t ∧ (written = looseWrite ↔ Canonical looseWrite) ∧
      (Overlong looseWrite → written.length + 1 = looseWrite.length) ∧
      (¬ Overlong looseWrite → written.length = looseWrite.length) :=
  ⟨_, rfl, rewriting_of_parse rfl⟩

end Telegram
end KnxIp
