/-
  Telegrams on the wire.

  In order: message code, length of the additional information, that information, the two
  control fields, source, destination, the number of octets behind the transport octet, the
  transport octet with the two upper bits of the service code, and for a data packet the
  application octet with the rest of the code and the data. A single value octet below 64 is
  added to the application octet instead of following it.

  Reading accepts a telegram only if that number counts every octet that is left, so what is read
  is the whole text; what it yields is well-formed (`wellFormed_of_parseContent`).
-/
import KnxIp.Telegram.Basic

namespace KnxIp.Telegram

namespace Content

/-- The transport octet: the packet kind and the upper two bits of the service code. -/
def transportOctet (c : Content) : UInt8 :=
  match c.apci with
  | none => c.tpci.octet
  | some a => c.tpci.octet + (a.code / 256).toUInt8

/-- The octets behind the transport octet. -/
def payload (c : Content) : Bytes :=
  match c.apci with
  | none => []
  | some a =>
    if c.isInline then [a.code.toUInt8 + c.data.val.headD 0] else a.code.toUInt8 :: c.data.val

/-- The telegram as it travels. -/
def bytes (c : Content) : Bytes :=
  c.messageCode.code :: c.info.val.length.toUInt8 :: c.info.val ++
    [c.control1.raw, c.control2.raw] ++ c.source.bytes ++ wordBytes c.destination.raw ++
    c.npduLength :: c.transportOctet :: c.payload

end Content

/-- The telegram in at most `room` octets. -/
def encode (t : Telegram) (room : Nat) : Except FramingFault Bytes :=
  if room < t.encodedLength then .error .bufferTooSmall else .ok t.bytes

/-- The data behind the application octet `application`: the value in its lower six bits when
nothing follows and the service carries one. -/
def readData (apci : Apci) (application : UInt8) (rest : Bytes) : Bytes :=
  if rest = [] ∧ apci.carriesValue then [application % 64] else rest

/-- Reads what stands behind the additional information. -/
def parseFields (messageCode : MessageCode) (info : AtMost maxAdditionalInfo) :
    Bytes → Except Fault Content
  | c1 :: c2 :: s1 :: s0 :: d1 :: d0 :: announced :: transport :: trailing =>
    let tpci := Tpci.ofOctet transport
    let control2 : Control2 := ⟨c2⟩
    let content (apci : Option Apci) (data : AtMost maxApplicationData) : Content :=
      { messageCode, info, control1 := ⟨c1⟩, control2, source := .ofOctets s1 s0
        destination := .ofRaw (word d1 d0) control2.isGroup, tpci, apci, data }
    if trailing.length ≠ announced.toNat then
      .error (.value (.npduLength announced.toNat trailing.length))
    else if tpci.isData then
      match trailing with
      | [] => .error (.value .missingApplicationOctet)
      | application :: rest =>
        let apci := Apci.ofOctets transport application
        match AtMost.ofBytes? maxApplicationData (readData apci application rest) with
        | some data => .ok (content (some apci) data)
        | none => .error (.framing .payloadTooLarge)
    else if announced.toNat ≠ 0 then
      .error (.value (.controlPacketLength announced.toNat))
    else .ok (content none AtMost.nothing)
  | _ => .error (.framing .bufferTooSmall)

/-- Reads the fields of a telegram that takes up all octets. -/
def parseContent : Bytes → Except Fault Content
  | code :: infoLength :: rest =>
    match MessageCode.ofCode code with
    | none => .error (.framing .invalidMessageCode)
    | some messageCode =>
      if rest.length < infoLength.toNat + 8 then .error (.framing .bufferTooSmall)
      else match AtMost.ofBytes? maxAdditionalInfo (rest.take infoLength.toNat) with
        | none => .error (.framing .payloadTooLarge)
        | some info => parseFields messageCode info (rest.drop infoLength.toNat)
  | _ => .error (.framing .bufferTooSmall)

theorem wellFormed_of_parseFields {m : MessageCode} {i : AtMost maxAdditionalInfo} {bs : Bytes}
    {c : Content} (h : parseFields m i bs = .ok c) : c.WellFormed := by
  unfold parseFields at h
  split at h
  · rename_i c1 c2 s1 s0 d1 d0 announced transport trailing
    dsimp only at h
    split at h
    · cases h
    · split at h
      · rename_i hd
        split at h
        · cases h
        · rename_i application rest _
          split at h
          · rename_i data hdata
            cases h
            refine ⟨by simp, Tpci.inRange_ofOctet _, by simp [hd], ?_, by simp, ?_⟩
            · intro a ha
              cases ha
              exact Apci.canonical_ofCode _
            · intro a ha hv
              cases ha
              rw [AtMost.val_of_ofBytes? hdata]
              unfold readData
              split
              · simp
              · rename_i hn
                exact fun e => hn ⟨e, hv⟩
          · cases h
      · rename_i hd
        split at h
        · cases h
        · cases h
          exact ⟨by simp, Tpci.inRange_ofOctet _, by simpa using hd, by simp,
            fun _ => rfl, by simp⟩
  · cases h

/-- What is read fits together. -/
theorem wellFormed_of_parseContent {bs : Bytes} {c : Content} (h : parseContent bs = .ok c) :
    c.WellFormed := by
  unfold parseContent at h
  split at h
  · split at h
    · cases h
    · split at h
      · cases h
      · split at h
        · cases h
        · exact wellFormed_of_parseFields h
  · cases h

/-- Reads a telegram that takes up all octets. -/
def parse (bs : Bytes) : Except Fault Telegram :=
  match h : parseContent bs with
  | .ok c => .ok ⟨c, wellFormed_of_parseContent h⟩
  | .error e => .error e

end KnxIp.Telegram
