/-
  Reading bodies and frames, and what it does to its buffers.

  Main statement: `stays_inside`. Whatever the octets, the readers of frames, of bodies of every
  service type, of telegrams and of descriptions use only octets that are there, report every
  vector that was given too much, and end with the value or the fault that the library's reading
  ends with; and a round of the loop over the blocks of a description fails or takes at least two
  octets away.
-/
import KnxIp.Proofs.Reading.Description
import KnxIp.Proofs.Reading.Telegram
import KnxIp.Reading.Frame

namespace KnxIp

open Reading

namespace Body

/-! ## Bodies -/

theorem yields_readChannelResponse (bs : Bytes) :
    (readChannelResponse bs).Yields (framed (parseChannelResponse bs)) := by
  refine Yields.require (fun short => ?_) fun front rest enough shape => ?_
  · unfold parseChannelResponse
    split
    · simp only [List.length_cons] at short
      omega
    · rfl
  · match front, enough with
    | [channel, status], _ =>
      subst shape
      simp only [parseChannelResponse, List.cons_append, List.nil_append, yields_octet_bind,
        yields_pure, List.getElem?_cons_zero, List.getElem?_cons_succ, Option.some.injEq,
        exists_eq_left', framed_ok]

theorem parseChannelRequest_of_short {bs : Bytes} (short : bs.length < 2 + Endpoint.size) :
    parseChannelRequest bs = .error .bufferTooSmall := by
  unfold parseChannelRequest
  split
  · rw [Endpoint.parse_of_short]
    · rfl
    · simp only [List.length_cons] at short
      omega
  · rfl

theorem yields_readChannelRequest (bs : Bytes) :
    (readChannelRequest bs).Yields (framed (parseChannelRequest bs)) := by
  refine Yields.require (fun short => ?_) fun front rest enough shape => ?_
  · rw [parseChannelRequest_of_short short, framed_error]
  · match front, enough with
    | channel :: reserved :: rest', _ =>
      subst shape
      simp only [parseChannelRequest, List.cons_append, yields_octet_bind, yields_sliceFrom_bind,
        List.getElem?_cons_zero, Option.some.injEq, exists_eq_left', List.drop_succ_cons,
        List.drop_zero, List.length_cons]
      exact ⟨by omega, (Endpoint.yields_read _).framed_map _⟩

theorem yields_readConnectRequest (bs : Bytes) :
    (readConnectRequest bs).Yields (framed (parseConnectRequest bs)) := by
  unfold readConnectRequest parseConnectRequest
  rw [yields_require_bind]
  split
  · rename_i short
    rfl
  · rename_i long
    rw [framed_bind]
    refine (Endpoint.yields_read bs).bind fun control _ => ?_
    rw [yields_sliceFrom_bind, framed_bind]
    refine ⟨by omega, (Endpoint.yields_read _).bind fun data _ => ?_⟩
    rw [yields_sliceFrom_bind, framed_bind]
    exact ⟨by omega, (ConnectionKind.yields_read _).bind fun kind _ => yields_pure.mpr rfl⟩

theorem yields_readAssigned (channel status : UInt8) (rest : Bytes) :
    (readAssigned (channel :: status :: rest)).Yields
      (if rest.length ≤ 8 then .ok none
      else framed ((AssignedAddress.parse (rest.drop 8)).map some)) := by
  unfold readAssigned
  simp only [List.length_cons]
  split
  · rename_i more
    rw [if_neg (by omega), yields_sliceFrom_bind]
    exact ⟨Nat.le_of_lt more, (AssignedAddress.yields_read _).framed_map _⟩
  · rw [if_pos (by omega)]
    exact yields_pure.mpr rfl

theorem yields_readConnectResponse (bs : Bytes) :
    (readConnectResponse bs).Yields (framed (parseConnectResponse bs)) := by
  refine Yields.require (fun short => ?_) fun front rest enough shape => ?_
  · match bs, short with
    | [], _ => rfl
    | [_], _ => rfl
  · match front, enough with
    | [channel, status], _ =>
      subst shape
      simp only [List.cons_append, List.nil_append, yields_octet_bind, List.getElem?_cons_zero,
        List.getElem?_cons_succ, Option.some.injEq, exists_eq_left']
      cases rest with
      | nil => exact yields_pure.mpr rfl
      | cons b rest =>
        have more : 2 < (channel :: status :: b :: rest).length := by
          simp only [List.length_cons]
          omega
        rw [if_pos more, yields_sliceFrom_bind, parseConnectResponse, framed_bind]
        · refine ⟨Nat.le_of_lt more, (Endpoint.yields_read _).bind fun data _ => ?_⟩
          have assigned := (yields_readAssigned channel status (b :: rest)).map
            (connectResponse channel status (some data))
          split <;> rename_i few <;> simp only [few, if_true, if_false] at assigned
          · exact assigned
          · cases parsed : AssignedAddress.parse ((b :: rest).drop 8) <;>
              rw [parsed] at assigned <;> exact assigned
        · exact List.cons_ne_nil b rest

theorem yields_readRoutingLostMessage (bs : Bytes) :
    (readRoutingLostMessage bs).Yields (framed (parseRoutingLostMessage bs)) := by
  refine Yields.require (fun short => ?_) fun front rest enough shape => ?_
  · unfold parseRoutingLostMessage
    split
    · simp only [List.length_cons] at short
      omega
    · rfl
  · match front, enough with
    | [length, state, l1, l0], _ =>
      subst shape
      simp only [parseRoutingLostMessage, List.cons_append, List.nil_append, yields_octet_bind,
        yields_refuse_bind, yields_pure, List.getElem?_cons_zero, List.getElem?_cons_succ,
        Option.some.injEq, exists_eq_left']
      grind [framed_error, framed_ok]

theorem yields_readRoutingBusy (bs : Bytes) :
    (readRoutingBusy bs).Yields (framed (parseRoutingBusy bs)) := by
  refine Yields.require (fun short => ?_) fun front rest enough shape => ?_
  · unfold parseRoutingBusy
    split
    · simp only [List.length_cons] at short
      omega
    · rfl
  · match front, enough with
    | [length, state, w1, w0, c1, c0], _ =>
      subst shape
      simp only [parseRoutingBusy, List.cons_append, List.nil_append, yields_octet_bind,
        yields_refuse_bind, yields_pure, List.getElem?_cons_zero, List.getElem?_cons_succ,
        Option.some.injEq, exists_eq_left']
      grind [framed_error, framed_ok]

/-- With enough rounds, reading a body yields what the library's reading says. -/
theorem yields_read {rounds : Nat} {bs : Bytes} (enough : bs.length ≤ 2 * rounds)
    (service : Service) : (read rounds service bs).Yields (parse service bs) := by
  cases service with
  | searchRequest => exact (Endpoint.yields_read bs).framed_map _
  | searchResponse =>
    unfold parse
    rw [framed_bind]
    refine (Endpoint.yields_read bs).bind fun endpoint found => ?_
    rw [yields_sliceFrom_bind, framed_bind]
    refine ⟨Endpoint.size_le_of_parse (framed_eq_ok_iff.mp found), ?_⟩
    have fewer : (bs.drop 8).length ≤ 2 * rounds := by
      rw [List.length_drop]
      omega
    exact (Description.yields_read fewer).bind fun _ _ => yields_pure.mpr rfl
  | descriptionRequest => exact (Endpoint.yields_read bs).framed_map _
  | descriptionResponse => exact (Description.yields_read enough).framed_map _
  | connectRequest => exact yields_readConnectRequest bs
  | connectResponse => exact yields_readConnectResponse bs
  | connectionStateRequest => exact (yields_readChannelRequest bs).framed_map _
  | connectionStateResponse => exact (yields_readChannelResponse bs).framed_map _
  | disconnectRequest => exact (yields_readChannelRequest bs).framed_map _
  | disconnectResponse => exact (yields_readChannelResponse bs).framed_map _
  | tunnelingRequest =>
    refine (TunnelHeader.yields_read bs).bind fun header found => ?_
    rw [yields_sliceFrom_bind]
    exact ⟨TunnelHeader.four_le_of_parse (framed_eq_ok_iff.mp found),
      (Telegram.yields_read _).bind fun _ _ => yields_pure.mpr rfl⟩
  | tunnelingAck => exact (TunnelHeader.yields_read bs).framed_map _
  | routingIndication => exact (Telegram.yields_read bs).map _
  | routingLostMessage => exact yields_readRoutingLostMessage bs
  | routingBusy => exact yields_readRoutingBusy bs

end Body

/-! ## The length that a body would be written with -/

namespace Telegram.Content

theorem yields_readInline (c : Content) : c.readInline.Yields (.ok c.isInline) := by
  unfold readInline isInline
  cases c.apci.any Apci.carriesValue with
  | false => exact yields_pure.mpr rfl
  | true =>
    match c.data.val with
    | [] => exact yields_pure.mpr rfl
    | [b] =>
      rw [if_pos ⟨rfl, rfl⟩, yields_octet_bind]
      exact ⟨b, rfl, yields_pure.mpr rfl⟩
    | a :: b :: more =>
      rw [if_neg (by simp)]
      exact yields_pure.mpr rfl

theorem yields_readLength (c : Content) : c.readLength.Yields (.ok c.encodedLength) := by
  unfold readLength encodedLength npduLength
  cases c.apci with
  | none => exact yields_pure.mpr rfl
  | some apci =>
    refine c.yields_readInline.bind_of_ok rfl ?_
    cases c.isInline <;> exact yields_pure.mpr rfl

end Telegram.Content

theorem Body.yields_readLength (b : Body) : b.readLength.Yields (.ok b.encodedLength) := by
  cases b with
  | tunnelingRequest header t => exact t.yields_readLength.map (4 + ·)
  | routingIndication t => exact t.yields_readLength
  | _ => exact yields_pure.mpr rfl

/-! ## Frames -/

theorem Frame.yields_read {rounds : Nat} {bs : Bytes} (enough : bs.length ≤ 2 * rounds) :
    (read rounds bs).Yields (decode bs) := by
  refine (Header.yields_read bs).bind fun header found => ?_
  rw [yields_refuse_bind]
  split
  · rfl
  · rw [yields_sliceFrom_bind]
    refine ⟨Header.size_le_of_parse (Body.framed_eq_ok_iff.mp found), ?_⟩
    have fewer : (bs.drop Header.size).length ≤ 2 * rounds := by
      rw [List.length_drop]
      omega
    refine (Body.yields_read fewer header.service).bind fun body _ => ?_
    refine body.yields_readLength.bind_of_ok rfl ?_
    rw [yields_refuse_bind]
    split
    · rfl
    · exact yields_pure.mpr rfl

namespace Reading

/-- Whatever the octets, all readers stay inside their buffers and end with the value or the fault
that the library's reading ends with, if the loop over the blocks of a description is allowed half
as many rounds as there are octets; and every round fails or takes at least two octets away. -/
theorem stays_inside {rounds : Nat} {bs : Bytes} (enough : bs.length ≤ 2 * rounds) :
    (Frame.read rounds bs).Yields (Frame.decode bs) ∧
      (∀ service, (Body.read rounds service bs).Yields (Body.parse service bs)) ∧
      (Telegram.read bs).Yields (Telegram.parse bs) ∧
      (Description.read rounds bs).Yields (Body.framed (Description.parse bs)) ∧
      ∀ g, ∃ e, (Description.round g bs).Yields e ∧
        ∀ g' rest, e = .ok (g', rest) → rest.length + 2 ≤ bs.length :=
  ⟨Frame.yields_read enough, Body.yields_read enough, Telegram.yields_read bs,
    Description.yields_read enough, fun g => ⟨_, Description.yields_round g bs,
      fun _ _ read => Description.two_le_of_advance (Body.framed_eq_ok_iff.mp read)⟩⟩

/-- A telegram that announces 65 octets of additional information. -/
def longInfo : Bytes := 0x11 :: 65 :: List.replicate 73 0

/-- A vector that is given one octet too many is reported. -/
theorem stays_inside_longInfo : longInfo.length ≤ 2 * 38 ∧
    (Telegram.read longInfo).Yields (.error (.framing .payloadTooLarge)) ∧
    .store maxAdditionalInfo 65 ∈ (Telegram.read longInfo).accesses :=
  have enough : longInfo.length ≤ 2 * 38 := by decide
  ⟨enough, (stays_inside enough).2.2.1, by decide⟩

/-- An octet that is not there is no fault, but the end of the reading. -/
example : (octet [] 0).result = .error .outside := rfl

end Reading
end KnxIp
