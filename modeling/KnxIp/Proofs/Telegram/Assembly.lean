/-
  Which drafts are accepted, after any changes.

  A `Wish` is what the changes of a draft leave in each field: what the last change that sets the
  field has set, or what a draft begins with. It says nothing of how a draft keeps its fields.

  Main statement: a draft is accepted exactly if its wish is acceptable and no additional
  information was replaced that was too long; the telegram then has the fields of the wish, but for
  a value, which is never empty (`build_of_changes`). Data that were too long may be replaced, while
  additional information that was too long is remembered (`build_of_replaced_info`).
-/
import Mathlib.Data.List.Induction
import KnxIp.Proofs.Result
import KnxIp.Proofs.Telegram.Rewriting
import KnxIp.Telegram.Change

namespace KnxIp

namespace Apci

theorem unassigned_not_mem_named (code : UInt16) : unassigned code ∉ named := by
  simp [named]

/-- An extended code of ten bits that no service has. -/
structure FreeCode (code : UInt16) : Prop where
  bits : code < 1024
  extended : upper code = 0x2C0 ∨ upper code = 0x3C0
  unnamed : ∀ a ∈ named, a.code ≠ code

theorem canonical_unassigned_iff {code : UInt16} :
    (unassigned code).Canonical ↔ FreeCode code := by
  show ofCode (code % 1024) = unassigned code ↔ _
  constructor
  · intro back
    have unnamed : ∀ a ∈ named, significant code ≠ a.code := by
      intro a mem same
      rw [← significant_mod] at same
      rw [ofCode_of_significant mem same] at back
      exact unassigned_not_mem_named code (back ▸ mem)
    have extended : isExtendedCode code = true := by
      cases h : isExtendedCode code with
      | true => rfl
      | false =>
        obtain ⟨a, mem, same⟩ := exists_named_of_short h
        exact absurd same (unnamed a mem)
    have small : code % 1024 = code := by
      have none : named.find? (·.code = significant (code % 1024)) = none := by
        rw [significant_mod, List.find?_eq_none]
        simpa [eq_comm] using unnamed
      rw [ofCode, none, mod_mod_code] at back
      exact Apci.unassigned.inj back
    rw [significant_of_extended extended, small] at unnamed
    refine ⟨?_, isExtendedCode_iff.mp extended, fun a mem same => unnamed a mem same.symm⟩
    rw [← small, UInt16.lt_iff_toNat_lt, UInt16.toNat_mod]
    exact Nat.mod_lt _ (by decide)
  · intro free
    have whole : code % 1024 = code := by
      apply UInt16.toNat_inj.mp
      rw [UInt16.toNat_mod]
      exact Nat.mod_eq_of_lt free.bits
    have all : significant code = code := by
      rw [significant_of_extended (isExtendedCode_iff.mpr free.extended), whole]
    have none : named.find? (·.code = code) = none := by
      simpa [List.find?_eq_none] using free.unnamed
    rw [whole, ofCode, all, none, whole]
    rfl

/-- Only a bare code may fail to lead back to itself. -/
theorem canonical_iff {a : Apci} :
    a.Canonical ↔ ∀ code, a = unassigned code → FreeCode code := by
  constructor
  · intro canonical code same
    exact canonical_unassigned_iff.mp (same ▸ canonical)
  · intro free
    cases a with
    | unassigned code => exact canonical_unassigned_iff.mpr (free code rfl)
    | _ => decide

end Apci

namespace Telegram.Draft

/-! ## What is wished for -/

/-- What the last of the changes that set something has set, or else what was there first. -/
def last {α : Type} (set? : Change → Option α) (first : α) (changes : List Change) : α :=
  (changes.filterMap set?).getLastD first

theorem last_concat {α : Type} (set? : Change → Option α) (first : α) (changes : List Change)
    (x : Change) :
    last set? first (changes ++ [x]) = (set? x).getD (last set? first changes) := by
  unfold last
  rw [List.filterMap_append]
  cases h : set? x with
  | none => simp [h]
  | some a => simp [h]

/-- The fields of a draft, as its changes have left them. -/
structure Wish where
  messageCode : MessageCode
  info : Bytes
  control1 : Control1
  /-- Control field 2, if it was given. -/
  control2 : Option Control2
  source : IndividualAddress
  tpci : Tpci
  apci : Option Apci
  data : Bytes

namespace Wish

/-- What changes leave in each field. -/
def of (changes : List Change) : Wish where
  messageCode := last (fun | .messageCode m => some m | _ => none) .request changes
  info := last (fun | .info bs => some bs | _ => none) [] changes
  control1 := last (fun | .control1 c => some c | _ => none) .standard changes
  control2 := last (fun | .control2 c => some (some c) | _ => none) none changes
  source := last (fun | .source a => some a | _ => none) .unspecified changes
  tpci := last (fun | .tpci t | .controlPacket t => some t | _ => none) .unnumberedData changes
  apci := last (fun | .apci a => some (some a) | .controlPacket _ => some none | _ => none)
    (some .groupValueRead) changes
  data := last (fun | .data bs => some bs | .controlPacket _ => some [] | _ => none) [] changes

/-- The fields go together, and none is too long or out of range. -/
structure Acceptable (w : Wish) (destination : Destination) : Prop where
  addressType : ∀ c ∈ w.control2, c.isGroup = destination.isGroup
  info : w.info.length ≤ 64
  data : w.data.length ≤ 254
  /-- A sequence number is at most 15 and a control code at most 3. -/
  tpci : w.tpci.InRange
  service : w.apci.isSome = w.tpci.isData
  noData : w.apci = none → w.data = []
  unassigned : ∀ code, w.apci = some (.unassigned code) → Apci.FreeCode code

/-- A telegram has the fields that were wished for; a value that was left out is 0. -/
structure Granted (w : Wish) (destination : Destination) (t : Telegram) : Prop where
  messageCode : t.messageCode = w.messageCode
  info : t.info.val = w.info
  control1 : t.control1 = w.control1
  control2 : t.control2 = w.control2.getD (.forDestination destination)
  source : t.source = w.source
  destination : t.destination = destination
  tpci : t.tpci = w.tpci
  apci : t.apci = w.apci
  data : t.data.val =
    if w.data = [] ∧ (w.apci = some .groupValueWrite ∨ w.apci = some .groupValueResponse) then [0]
    else w.data

end Wish

/-- Additional information was given that is too long, and then some that is not. -/
def InfoReplaced (changes : List Change) : Prop :=
  (∃ bs, .info bs ∈ changes ∧ 64 < bs.length) ∧ (Wish.of changes).info.length ≤ 64

/-! ## What a draft keeps -/

/-- The wish after one more change. -/
def Wish.change (w : Wish) : Change → Wish
  | .messageCode messageCode => { w with messageCode }
  | .info info => { w with info }
  | .control1 control1 => { w with control1 }
  | .control2 control2 => { w with control2 := some control2 }
  | .source source => { w with source }
  | .tpci tpci => { w with tpci }
  | .apci apci => { w with apci := some apci }
  | .controlPacket tpci => { w with tpci, apci := none, data := [] }
  | .data data => { w with data }

theorem Wish.of_concat (changes : List Change) (x : Change) :
    Wish.of (changes ++ [x]) = (Wish.of changes).change x := by
  cases x <;> simp [Wish.of, Wish.change, last_concat]

/-- A draft keeps what is wished for, but for what is too long. -/
structure Keeps (d : Draft) (destination : Destination) (w : Wish) : Prop where
  messageCode : d.messageCode = w.messageCode
  info : d.infoRefused = false → d.info.val = w.info
  control1 : d.control1 = w.control1
  control2 : d.control2 = w.control2
  source : d.source = w.source
  destination : d.destination = destination
  tpci : d.tpci = w.tpci
  apci : d.apci = w.apci
  data : d.data = AtMost.ofBytes? maxApplicationData w.data

theorem Keeps.change {d : Draft} {destination : Destination} {w : Wish}
    (h : d.Keeps destination w) (x : Change) : (d.change x).Keeps destination (w.change x) := by
  cases x with
  | info bs =>
    show (d.withInfo bs).Keeps destination { w with info := bs }
    unfold withInfo
    split
    · next info fits => exact { h with info := fun _ => AtMost.val_of_ofBytes? fits }
    · next long => exact { h with info := fun kept => Bool.noConfusion kept }
  | messageCode m => exact { h with messageCode := rfl }
  | control1 c => exact { h with control1 := rfl }
  | control2 c => exact { h with control2 := rfl }
  | source a => exact { h with source := rfl }
  | tpci t => exact { h with tpci := rfl }
  | apci a => exact { h with apci := rfl }
  | controlPacket t => exact { h with tpci := rfl, apci := rfl, data := rfl }
  | data bs => exact { h with data := rfl }

theorem keeps_changeAll (destination : Destination) (changes : List Change) :
    ((forDestination destination).changeAll changes).Keeps destination (Wish.of changes) := by
  induction changes using List.reverseRecOn with
  | nil => exact ⟨rfl, fun _ => rfl, rfl, rfl, rfl, rfl, rfl, rfl, rfl⟩
  | append_singleton changes x ih =>
    rw [changeAll_concat, Wish.of_concat]
    exact ih.change x

/-- Only additional information that is too long is refused. -/
theorem infoRefused_change (d : Draft) (x : Change) : (d.change x).infoRefused = true ↔
    d.infoRefused = true ∨ ∃ bs, x = .info bs ∧ 64 < bs.length := by
  cases x with
  | info bs =>
    show (d.withInfo bs).infoRefused = true ↔ _
    unfold withInfo
    split
    · next info fits =>
      have short : ¬ 64 < bs.length := by
        have bound : info.val.length ≤ 64 := info.property
        rw [AtMost.val_of_ofBytes? fits] at bound
        omega
      simp [short]
    · next tooLong =>
      have long : 64 < bs.length := AtMost.ofBytes?_eq_none_iff.mp tooLong
      simp [long]
  | _ => simp [change, withData, asControlPacket]

/-- It is never forgotten, whatever is changed afterwards. -/
theorem infoRefused_changeAll_iff (destination : Destination) (changes : List Change) :
    ((forDestination destination).changeAll changes).infoRefused = true ↔
      ∃ bs, .info bs ∈ changes ∧ 64 < bs.length := by
  induction changes using List.reverseRecOn with
  | nil => simp [changeAll, forDestination]
  | append_singleton changes x ih =>
    rw [changeAll_concat, infoRefused_change, ih]
    constructor
    · intro h
      obtain ⟨bs, mem, long⟩ | ⟨bs, rfl, long⟩ := h
      · exact ⟨bs, List.mem_append_left _ mem, long⟩
      · exact ⟨bs, by simp, long⟩
    · intro h
      obtain ⟨bs, mem, long⟩ := h
      obtain mem | last := List.mem_append.mp mem
      · exact .inl ⟨bs, mem, long⟩
      · exact .inr ⟨bs, (List.mem_singleton.mp last).symm, long⟩

/-! ## What is judged -/

/-- The data that a telegram gets: those of the draft, unless a value was left out. -/
def payloadFor (apci : Option Apci) (data : AtMost maxApplicationData) :
    AtMost maxApplicationData :=
  apci.elim data (dataFor · data)

/-- In a data packet a service passes exactly if it is one its code leads back to. -/
theorem judgePayload_some_iff {tpci : Tpci} {data out : AtMost maxApplicationData} {a : Apci}
    (isData : tpci.isData = true) :
    judgePayload tpci data (some a) = .ok out ↔ a.Canonical ∧ out = dataFor a data := by
  simp only [judgePayload, isData, Bool.not_true, Bool.false_eq_true, if_false]
  split
  · next code =>
    have same : dataFor (.unassigned code) data = data := by simp [dataFor, Apci.carriesValue]
    rw [same]
    split
    · next canonical => simp [canonical, eq_comm]
    · next other => simp [other]
  · next other =>
    have canonical : a.Canonical := Apci.canonical_iff.mpr fun code same => absurd same (other code)
    simp [canonical, eq_comm]

/-- The service and the data pass exactly if they go with the packet kind and the service is one
its code leads back to. -/
theorem judgePayload_eq_ok_iff {tpci : Tpci} {data out : AtMost maxApplicationData}
    {apci : Option Apci} : judgePayload tpci data apci = .ok out ↔
      apci.isSome = tpci.isData ∧ (apci = none → data.val = []) ∧ (∀ a ∈ apci, a.Canonical) ∧
        out = payloadFor apci data := by
  cases apci with
  | some a =>
    cases isData : tpci.isData with
    | true => simp [judgePayload_some_iff isData, payloadFor]
    | false => simp [judgePayload, isData]
  | none =>
    cases isData : tpci.isData with
    | true => simp [judgePayload, isData]
    | false =>
      simp only [judgePayload, isData, Bool.false_eq_true, if_false]
      split
      · next some => simp [some]
      · next empty => simp [Decidable.not_not.mp empty, payloadFor, eq_comm]

/-- The fields of a draft go together, and none is out of range. -/
structure Sound (d : Draft) (data : AtMost maxApplicationData) : Prop where
  addressType : d.control2OrStandard.isGroup = d.destination.isGroup
  info : d.infoRefused = false
  tpci : d.tpci.InRange
  given : d.data = some data
  service : d.apci.isSome = d.tpci.isData
  noData : d.apci = none → data.val = []
  canonical : ∀ a ∈ d.apci, a.Canonical

theorem fields_eq_ok_iff {d : Draft} {c : Content} :
    d.fields = .ok c ↔
      ∃ data, d.Sound data ∧ c = d.withFields (payloadFor d.apci data) := by
  unfold fields
  constructor
  · intro h
    split at h
    · cases h
    · next addressType =>
      split at h
      · cases h
      · next info =>
        obtain ⟨u, tpci, h⟩ := bind_eq_ok_iff.mp h
        split at h
        · cases h
        · next data given =>
          obtain ⟨out, judged, rfl⟩ := map_eq_ok_iff.mp h
          obtain ⟨service, noData, canonical, rfl⟩ := judgePayload_eq_ok_iff.mp judged
          exact ⟨data, ⟨Decidable.not_not.mp addressType, by simpa using info,
            Tpci.validate_eq_ok_iff.mp tpci, given, service, noData, canonical⟩, rfl⟩
  · intro ⟨data, sound, same⟩
    rw [if_neg (fun other => other sound.addressType), if_neg (by simp [sound.info])]
    refine bind_eq_ok_iff.mpr ⟨(), Tpci.validate_eq_ok_iff.mpr sound.tpci, ?_⟩
    rw [sound.given]
    exact map_eq_ok_iff.mpr ⟨_, judgePayload_eq_ok_iff.mpr
      ⟨sound.service, sound.noData, sound.canonical, rfl⟩, same.symm⟩

theorem build_eq_ok_iff {d : Draft} {t : Telegram} :
    d.build = .ok t ↔ d.fields = .ok t.toContent := by
  unfold build
  split
  · next c hc =>
    constructor
    · intro h
      cases h
      exact hc
    · intro h
      obtain rfl : c = t.toContent := Except.ok.inj (hc.symm.trans h)
      rfl
  · next e he => simp [he]

/-! ## After any changes -/

namespace Keeps

variable {d : Draft} {destination : Destination} {w : Wish} (h : d.Keeps destination w)
include h

theorem addressType_iff : d.control2OrStandard.isGroup = d.destination.isGroup ↔
    ∀ c ∈ w.control2, c.isGroup = destination.isGroup := by
  unfold control2OrStandard
  rw [h.control2, h.destination]
  cases w.control2 with
  | none => simp [Control2.isGroup_forDestination]
  | some c => simp

theorem given_iff {data : AtMost maxApplicationData} :
    d.data = some data ↔ w.data = data.val := by
  rw [h.data]
  constructor
  · intro given
    exact (AtMost.val_of_ofBytes? given).symm
  · intro same
    rw [same]
    exact AtMost.ofBytes?_val data

/-- What is kept is sound exactly if what is wished for is acceptable and no additional information
was refused. -/
theorem sound_iff {data : AtMost maxApplicationData} :
    d.Sound data ↔ w.Acceptable destination ∧ d.infoRefused = false ∧ w.data = data.val := by
  constructor
  · intro sound
    have same := h.given_iff.mp sound.given
    refine ⟨⟨h.addressType_iff.mp sound.addressType, ?_, ?_, h.tpci ▸ sound.tpci, ?_, ?_, ?_⟩,
      sound.info, same⟩
    · rw [← h.info sound.info]
      exact d.info.property
    · rw [same]
      exact data.property
    · rw [← h.apci, ← h.tpci]
      exact sound.service
    · rw [← h.apci, same]
      exact sound.noData
    · intro code wished
      exact Apci.canonical_iff.mp (sound.canonical _ (h.apci.trans wished)) code rfl
  · intro ⟨acceptable, kept, same⟩
    refine ⟨h.addressType_iff.mpr acceptable.addressType, kept, h.tpci ▸ acceptable.tpci,
      h.given_iff.mpr same, ?_, ?_, ?_⟩
    · rw [h.apci, h.tpci]
      exact acceptable.service
    · rw [h.apci, ← same]
      exact acceptable.noData
    · intro a given
      refine Apci.canonical_iff.mpr fun code same => ?_
      rw [h.apci, same] at given
      exact acceptable.unassigned code given

/-- The fields of what is kept are those that are wished for. -/
theorem granted {data : AtMost maxApplicationData} (sound : d.Sound data) {t : Telegram}
    (fields : t.toContent = d.withFields (payloadFor d.apci data)) : w.Granted destination t := by
  obtain ⟨c, wf⟩ := t
  obtain rfl : c = _ := fields
  have payload : (payloadFor w.apci data).val =
      if w.data = [] ∧ (w.apci = some .groupValueWrite ∨ w.apci = some .groupValueResponse)
        then [0] else w.data := by
    rw [(h.sound_iff.mp sound).2.2]
    cases w.apci with
    | none => simp [payloadFor]
    | some a =>
      show (dataFor a data).val = _
      simp only [dataFor, Apci.carriesValue_iff, Option.some.injEq, and_comm]
      split <;> rfl
  exact ⟨h.messageCode, h.info sound.info, h.control1, by rw [← h.control2, ← h.destination]; rfl,
    h.source, h.destination, h.tpci, h.apci, by rw [← payload, ← h.apci]; rfl⟩

end Keeps

/-- A draft is accepted exactly if its wish is acceptable, unless it has refused additional
information that was replaced later. The telegram has the fields that were wished for. -/
theorem build_of_changes (destination : Destination) (changes : List Change) :
    ((∃ t, ((forDestination destination).changeAll changes).build = .ok t) ↔
      (Wish.of changes).Acceptable destination ∧ ¬ InfoReplaced changes) ∧
    ∀ t, ((forDestination destination).changeAll changes).build = .ok t →
      (Wish.of changes).Granted destination t := by
  have keeps := keeps_changeAll destination changes
  have refused := infoRefused_changeAll_iff destination changes
  generalize (forDestination destination).changeAll changes = d at keeps refused
  constructor
  · constructor
    · intro ⟨t, built⟩
      obtain ⟨data, sound, -⟩ := fields_eq_ok_iff.mp (build_eq_ok_iff.mp built)
      obtain ⟨acceptable, kept, -⟩ := keeps.sound_iff.mp sound
      refine ⟨acceptable, fun replaced => ?_⟩
      rw [refused.mpr replaced.1] at kept
      exact Bool.noConfusion kept
    · intro ⟨acceptable, notReplaced⟩
      have kept : d.infoRefused = false := by
        rw [← Bool.not_eq_true, refused]
        exact fun long => notReplaced ⟨long, acceptable.info⟩
      have sound : d.Sound ⟨(Wish.of changes).data, acceptable.data⟩ :=
        keeps.sound_iff.mpr ⟨acceptable, kept, rfl⟩
      have fields := fields_eq_ok_iff.mpr ⟨_, sound, rfl⟩
      exact ⟨⟨_, wellFormed_of_fields fields⟩, build_eq_ok_iff.mpr fields⟩
  · intro t built
    obtain ⟨data, sound, same⟩ := fields_eq_ok_iff.mp (build_eq_ok_iff.mp built)
    exact keeps.granted sound same

/-- Data that are too long leave nothing behind once they are replaced. -/
example : ∃ t, ((forDestination (.group ⟨0x0A03⟩)).changeAll
    [.data (List.replicate 255 0), .apci .groupValueWrite, .data [5]]).build = .ok t ∧
      t.data.val = [5] := ⟨_, rfl, rfl⟩

/-- Additional information of 65 octets, and then two octets instead. -/
def replacedInfo : List Change := [.info (List.replicate 65 0), .info [0xAA, 0xBB]]

/-- What is wished for in the end is acceptable, but the draft is not accepted. -/
theorem build_of_replaced_info :
    (Wish.of replacedInfo).Acceptable (.group ⟨0x0A03⟩) ∧
      ((forDestination (.group ⟨0x0A03⟩)).changeAll replacedInfo).build =
        .error .additionalInfo := by
  refine ⟨⟨?_, ?_, ?_, ?_, ?_, ?_, ?_⟩, rfl⟩
  · intro c given
    cases given
  · decide
  · decide
  · trivial
  · rfl
  · intro none
    cases none
  · intro code given
    cases given

end Telegram.Draft
end KnxIp
