/-
  Drafts: telegrams under construction.

  A draft for a destination starts with the fields of a group read and is changed field by
  field; `build` judges it at the end. A service that carries a value gets the value 0 if the
  draft names none.
-/
import KnxIp.Telegram.Basic

namespace KnxIp.Telegram

/-- A telegram under construction. -/
structure Draft where
  messageCode : MessageCode
  /-- The additional information that was last accepted. -/
  info : AtMost maxAdditionalInfo
  /-- Whether additional information was ever refused for its length. -/
  infoRefused : Bool
  control1 : Control1
  /-- Control field 2, if it was given. -/
  control2 : Option Control2
  source : IndividualAddress
  destination : Destination
  tpci : Tpci
  apci : Option Apci
  /-- The data that was last given, unless it was too long. -/
  data : Option (AtMost maxApplicationData)
deriving DecidableEq, Repr

namespace Draft

/-- A request to read a destination, from no particular source. -/
def forDestination (destination : Destination) : Draft where
  messageCode := .request
  info := AtMost.nothing
  infoRefused := false
  control1 := .standard
  control2 := none
  source := .unspecified
  destination
  tpci := .unnumberedData
  apci := some .groupValueRead
  data := some AtMost.nothing

/-- Sets the additional information. Too long a text is refused, and the draft remembers it. -/
def withInfo (d : Draft) (info : Bytes) : Draft :=
  match AtMost.ofBytes? maxAdditionalInfo info with
  | some info => { d with info }
  | none => { d with infoRefused := true }

/-- Sets the application data. -/
def withData (d : Draft) (data : Bytes) : Draft :=
  { d with data := AtMost.ofBytes? maxApplicationData data }

/-- Turns the draft into a control packet: neither service nor data. -/
def asControlPacket (d : Draft) (tpci : Tpci) : Draft :=
  { d with tpci, apci := none, data := some AtMost.nothing }

/-- The data of a telegram with a service: a value is never empty. -/
def dataFor (apci : Apci) (data : AtMost maxApplicationData) : AtMost maxApplicationData :=
  if apci.carriesValue ∧ data.val = [] then ⟨[0], by decide⟩ else data

/-- Control field 2 of the draft: the one given, or the one for the destination. -/
def control2OrStandard (d : Draft) : Control2 :=
  d.control2.getD (.forDestination d.destination)

/-- The fields of the draft with their data, once these are judged. -/
def withFields (d : Draft) (data : AtMost maxApplicationData) : Content where
  messageCode := d.messageCode
  info := d.info
  control1 := d.control1
  control2 := d.control2OrStandard
  source := d.source
  destination := d.destination
  tpci := d.tpci
  apci := d.apci
  data

/-- The service and the data against the packet kind. -/
def judgePayload (tpci : Tpci) (data : AtMost maxApplicationData) :
    Option Apci → Except ValueFault (AtMost maxApplicationData)
  | some apci =>
    if !tpci.isData then .error .serviceOnControlPacket
    else match apci with
      | .unassigned code =>
        if apci.Canonical then .ok data else .error (.assignedCode code)
      | _ => .ok (dataFor apci data)
  | none =>
    if tpci.isData then .error .missingService
    else if data.val ≠ [] then .error .dataOnControlPacket
    else .ok data

/-- The fields of the telegram that the draft describes. The address type is judged first, then
the additional information, the transport numbers, the data, and last the service. -/
def fields (d : Draft) : Except ValueFault Content :=
  if d.control2OrStandard.isGroup ≠ d.destination.isGroup then
    .error (.addressType d.destination)
  else if d.infoRefused then .error .additionalInfo
  else do
    d.tpci.validate
    match d.data with
    | none => .error .applicationData
    | some data => (judgePayload d.tpci data d.apci).map d.withFields

theorem judgePayload_ok {tpci : Tpci} {data out : AtMost maxApplicationData}
    {apci : Option Apci} (h : judgePayload tpci data apci = .ok out) :
    apci.isSome = tpci.isData ∧ (∀ a ∈ apci, a.Canonical) ∧ (apci = none → out.val = []) ∧
      ∀ a ∈ apci, a.carriesValue = true → out.val ≠ [] := by
  unfold judgePayload at h
  split at h
  · rename_i a
    split at h
    · cases h
    · rename_i hd
      have hd : tpci.isData = true := by simpa using hd
      have value (b : Apci) : b.carriesValue = true → (dataFor b data).val ≠ [] := by
        intro hv
        unfold dataFor
        split
        · simp
        · rename_i hn; exact fun e => hn ⟨hv, e⟩
      split at h
      · rename_i code
        split at h
        · rename_i hc
          cases h
          refine ⟨by simp [hd], by simpa using hc, by simp, ?_⟩
          intro a ha hv
          cases ha
          simp [Apci.carriesValue] at hv
        · cases h
      · rename_i hn
        cases h
        refine ⟨by simp [hd], ?_, by simp, ?_⟩
        · intro b hb
          cases hb
          cases a with
          | unassigned code => exact absurd rfl (hn code)
          | _ => decide
        · intro b hb
          cases hb
          exact value a
  · split at h
    · cases h
    · rename_i hd
      split at h
      · cases h
      · rename_i he
        cases h
        refine ⟨by simpa using hd, by simp, fun _ => by simpa using he, by simp⟩

/-- The fields of an accepted draft fit together. -/
theorem wellFormed_of_fields {d : Draft} {c : Content} (h : d.fields = .ok c) :
    c.WellFormed := by
  unfold fields at h
  split at h
  · cases h
  · rename_i hg
    split at h
    · cases h
    · cases hv : d.tpci.validate with
      | error e => rw [hv] at h; cases h
      | ok u =>
        rw [hv] at h
        simp only [bind, Except.bind] at h
        split at h
        · cases h
        · rename_i data _
          cases hj : judgePayload d.tpci data d.apci with
          | error e => rw [hj] at h; cases h
          | ok out =>
            rw [hj] at h
            cases h
            obtain ⟨h1, h2, h3, h4⟩ := judgePayload_ok hj
            exact ⟨Decidable.not_not.mp hg, Tpci.validate_eq_ok_iff.mp hv, h1, h2, h3, h4⟩

/-- The telegram that the draft describes. -/
def build (d : Draft) : Except ValueFault Telegram :=
  match h : d.fields with
  | .ok c => .ok ⟨c, wellFormed_of_fields h⟩
  | .error e => .error e

end Draft

/-- A request to write a value to a group. -/
def groupWrite (g : GroupAddress) (data : Bytes) : Except ValueFault Telegram :=
  Draft.build { (Draft.forDestination (.group g)).withData data with apci := some .groupValueWrite }

/-- A request to read the value of a group. -/
def groupRead (g : GroupAddress) : Except ValueFault Telegram :=
  (Draft.forDestination (.group g)).build

/-- A response with the value of a group. -/
def groupResponse (g : GroupAddress) (data : Bytes) : Except ValueFault Telegram :=
  Draft.build
    { (Draft.forDestination (.group g)).withData data with apci := some .groupValueResponse }

end KnxIp.Telegram
