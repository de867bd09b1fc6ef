/-
  The reader of telegrams.

  Everything behind the additional information is taken by its distance from the end of that
  information, whose length is one of the octets read. The octets behind the transport octet are
  compared with their announced number before one of them is taken. What is read fits together
  (`wellFormed_of_readContent`).
-/
import KnxIp.Reading
import KnxIp.Telegram.Codec

namespace KnxIp.Telegram

open Reading

/-- Reads the data of a service: the lower six bits of the application octet if only one octet was
announced and the service carries a value, and otherwise what follows it. -/
def readPayload (apci : Apci) (announced : Nat) (trailing : Bytes) : Reading Bytes := do
  let inline := [(← octet trailing 0) % 64]
  if announced = 1 ∧ apci.carriesValue then sliceFrom inline 0 else sliceFrom trailing 1

/-- Reads the service and its data behind the transport octet. -/
def readApplication (transport : UInt8) (announced : Nat) (trailing : Bytes) :
    Reading (Option Apci × AtMost maxApplicationData) :=
  if (Tpci.ofOctet transport).isData then do
    refuse (announced = 0) (.value .missingApplicationOctet)
    let apci := Apci.ofOctets transport (← octet trailing 0)
    let payload ← readPayload apci announced trailing
    let data ← orFail (← store maxApplicationData payload) (.framing .payloadTooLarge)
    return (some apci, data)
  else do
    refuse (announced ≠ 0) (.value (.controlPacketLength announced))
    return (none, AtMost.nothing)

/-- Reads what stands behind the additional information, which ends before the place `o`. -/
def readFields (messageCode : MessageCode) (info : AtMost maxAdditionalInfo) (bs : Bytes)
    (o : Nat) : Reading Content := do
  let control1 : Control1 := ⟨← octet bs (o + 0)⟩
  let control2 : Control2 := ⟨← octet bs (o + 1)⟩
  let source := IndividualAddress.ofOctets (← octet bs (o + 2)) (← octet bs (o + 3))
  let raw := word (← octet bs (o + 4)) (← octet bs (o + 5))
  let announced := (← octet bs (o + 6)).toNat
  let transport ← octet bs (o + 7)
  let trailing ← sliceFrom bs (o + 8)
  refuse (trailing.length ≠ announced) (.value (.npduLength announced trailing.length))
  let (apci, data) ← readApplication transport announced trailing
  return { messageCode, info, control1, control2, source
           destination := .ofRaw raw control2.isGroup, tpci := .ofOctet transport, apci, data }

/-- Reads the fields of a telegram that takes up all octets. -/
def readContent (bs : Bytes) : Reading Content := do
  require bs 2
  let messageCode ← orFail (MessageCode.ofCode (← octet bs 0)) (.framing .invalidMessageCode)
  let infoLength := (← octet bs 1).toNat
  require bs (10 + infoLength)
  let octets ← slice bs 2 (2 + infoLength)
  let info ← orFail (← store maxAdditionalInfo octets) (.framing .payloadTooLarge)
  readFields messageCode info bs (2 + infoLength)

/-- A value that is read has an octet. -/
theorem ne_nil_of_readPayload {apci : Apci} {trailing data : Bytes}
    (carries : apci.carriesValue = true) (present : trailing.length ≠ 0)
    (h : (readPayload apci trailing.length trailing).result = .ok data) : data ≠ [] := by
  obtain ⟨first, -, taken⟩ := result_bind_eq_ok_iff.mp h
  dsimp only at taken
  split at taken
  · cases taken
    nofun
  · next more =>
    have two : 2 ≤ trailing.length := by
      have several : trailing.length ≠ 1 := fun one => more ⟨one, carries⟩
      omega
    rw [sliceFrom, slice, if_pos ⟨by omega, Nat.le_refl _⟩, List.take_length] at taken
    cases taken
    intro nothing
    have gone := congrArg List.length nothing
    rw [List.length_drop, List.length_nil] at gone
    omega

/-- The service goes with the kind of packet, and the data with the service. -/
theorem suits_of_readApplication {transport : UInt8} {trailing : Bytes} {apci : Option Apci}
    {data : AtMost maxApplicationData}
    (h : (readApplication transport trailing.length trailing).result = .ok (apci, data)) :
    apci.isSome = (Tpci.ofOctet transport).isData ∧ (∀ a ∈ apci, a.Canonical) ∧
      (apci = none → data.val = []) ∧ ∀ a ∈ apci, a.carriesValue = true → data.val ≠ [] := by
  unfold readApplication at h
  split at h
  · next isData =>
    simp only [result_bind_eq_ok_iff, result_orFail_eq_ok_iff] at h
    obtain ⟨_, present, first, -, payload, taken, _, kept, _, rfl, same⟩ := h
    cases same
    refine ⟨isData.symm, ?_, nofun, ?_⟩
    · rintro a ⟨⟩
      exact Apci.canonical_ofCode _
    · rintro a ⟨⟩ carries
      rw [val_of_result_store kept]
      exact ne_nil_of_readPayload carries (not_of_result_refuse present) taken
  · next control =>
    obtain ⟨_, -, same⟩ := result_bind_eq_ok_iff.mp h
    cases same
    exact ⟨by simpa using control, nofun, fun _ => rfl, nofun⟩

theorem wellFormed_of_readFields {m : MessageCode} {i : AtMost maxAdditionalInfo} {bs : Bytes}
    {o : Nat} {c : Content} (h : (readFields m i bs o).result = .ok c) : c.WellFormed := by
  simp only [readFields, result_bind_eq_ok_iff] at h
  obtain ⟨c1, -, c2, -, s1, -, s0, -, d1, -, d0, -, announced, -, transport, -, trailing, -, _,
    counted, ⟨apci, data⟩, application, same⟩ := h
  cases same
  have counted := Decidable.not_not.mp (not_of_result_refuse counted)
  rw [← counted] at application
  obtain ⟨service, canonical, noData, value⟩ := suits_of_readApplication application
  exact ⟨by simp, Tpci.inRange_ofOctet _, service, canonical, noData, value⟩

/-- What is read fits together. -/
theorem wellFormed_of_readContent {bs : Bytes} {c : Content}
    (h : (readContent bs).result = .ok c) : c.WellFormed := by
  simp only [readContent, result_bind_eq_ok_iff] at h
  obtain ⟨_, -, _, -, code, -, infoLength, -, _, -, octets, -, _, -, info, -, fields⟩ := h
  exact wellFormed_of_readFields fields

/-- Reads a telegram that takes up all octets. -/
def read (bs : Bytes) : Reading Telegram := do
  let content ← (readContent bs).attach fun _ found => wellFormed_of_readContent found
  return ⟨content.val, content.property⟩

end KnxIp.Telegram
