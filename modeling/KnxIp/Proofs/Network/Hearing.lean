/-
  What a client learns from the datagrams it receives.

  The known values change only by the telegrams that were received, in their order; some of these
  are not noted, because they are repetitions, or of another channel, or confirm a failure. And
  whoever is to be told that the connection is to be closed is told only when the peer has asked for
  it, in a datagram for the channel that is held (`World.Hears`). This is so whatever is sent, asked
  and received meanwhile.
-/
import KnxIp.Discovery
import KnxIp.KeepAlive
import KnxIp.Proofs.Channel.Reaction
import KnxIp.Proofs.Network.Progress
import KnxIp.Proofs.StatusPool.History

namespace KnxIp

/-- The value of an address: the service, the data and the source of the telegram that brings it. -/
abbrev StatusPool.Value := Apci × Bytes × IndividualAddress

/-- The values that operations bring into a pool. -/
def StatusPool.renewals (operations : List StatusPool.Operation) :
    List (Destination × StatusPool.Value) :=
  operations.filterMap StatusPool.Operation.update?

/-- The value that a datagram brings when it is received. -/
def Receipt.value? (r : Receipt) : Option (Destination × StatusPool.Value) :=
  ((Frame.bodyIn? r.bytes).bind Body.telegram?).bind fun t => (StatusPool.Operation.note t).update?

/-- The value in a datagram that was received. -/
def Happening.value? : Happening → Option (Destination × StatusPool.Value)
  | .received r => r.value?
  | _ => none

/-- The values in the datagrams received. -/
def Journal.values (journal : List Happening) : List (Destination × StatusPool.Value) :=
  journal.filterMap Happening.value?

open Journal StatusPool

@[simp] theorem Journal.values_append (xs ys : List Happening) :
    values (xs ++ ys) = values xs ++ values ys := List.filterMap_append

@[simp] theorem StatusPool.renewals_append (xs ys : List StatusPool.Operation) :
    renewals (xs ++ ys) = renewals xs ++ renewals ys := List.filterMap_append

theorem StatusPool.run_append (s : StatusPool) (xs ys : List StatusPool.Operation) :
    s.run (xs ++ ys) = (s.run xs).run ys := List.foldl_append

/-! ## One datagram -/

namespace Context

/-- What handling a body does to the known values and to the connection. -/
structure Minds (c : Context) (b : Body) (d : Context) : Prop where
  status : d.status = c.status ∨
    ∃ t, b.telegram? = some t ∧ d.status = c.status.apply (.note t)
  told : d.connection.told = c.connection.told ∨
    ∃ id, b.disconnect? = some id

theorem minds_of_eq {c d : Context} (b : Body) (status : d.status = c.status)
    (connection : d.connection = c.connection) : c.Minds b d :=
  ⟨.inl status, .inl (congrArg _ connection)⟩

theorem reply_quiet (c : Context) (refusal : Refusal) (b : Body) (destination : Endpoint) :
    let h := (c.reply refusal b destination).2
    h.context.status = c.status ∧ h.context.connection = c.connection := by
  unfold reply
  dsimp only
  split
  · exact ⟨rfl, rfl⟩
  · split <;> exact ⟨rfl, rfl⟩

theorem noteValue_status (c : Context) (t : Telegram) :
    (c.noteValue t).status = c.status ∨ (c.noteValue t).status = c.status.apply (.note t) := by
  unfold noteValue
  split
  · exact .inl rfl
  · exact .inr rfl

theorem minds_handle (c : Context) (peers : Peers) (refusal : Refusal) (source : Endpoint)
    (handling : Handling) (b : Body) :
    c.Minds b (c.handle peers refusal source handling b).2.context := by
  unfold handle
  split
  case h_1 => exact minds_of_eq _ rfl rfl
  case h_2 id endpoint =>
    obtain ⟨status, connection⟩ :=
      c.reply_quiet refusal (.connectionStateResponse id statusOk) (endpoint.replyTo source)
    exact minds_of_eq _ status connection
  case h_3 id endpoint =>
    have quiet := reply_quiet { c with
      correlator := c.correlator.registerInbound (.disconnectRequest id endpoint) }
      refusal (.disconnectResponse id statusOk) (endpoint.replyTo source)
    exact ⟨.inl quiet.1, .inr ⟨id, rfl⟩⟩
  case h_4 header telegram =>
    obtain ⟨status, connection⟩ := c.reply_quiet refusal
      (.tunnelingAck ⟨header.channel, header.sequence, statusOk⟩) (peers.ofChannel .data)
    dsimp only
    generalize c.reply refusal (.tunnelingAck ⟨header.channel, header.sequence, statusOk⟩)
      (peers.ofChannel .data) = answer at status connection ⊢
    obtain ⟨result, h⟩ := answer
    cases result with
    | error f => exact minds_of_eq _ status connection
    | ok _ =>
      have same : h.context.status = c.status := status
      have accepted : c.Minds (.tunnelingRequest header telegram)
          (h.context.accepted header telegram) := by
        refine ⟨?_, .inl ?_⟩
        · rw [status_accepted, ← same]
          split
          · exact .inl rfl
          · exact (h.context.noteValue_status telegram).imp_right
              fun noted => ⟨telegram, rfl, noted⟩
        · have told : h.context.connection.told = c.connection.told := congrArg _ connection
          rw [(h.context.accepted_keeps header telegram).2, ← told]
      exact accepted
  case h_5 telegram =>
    refine ⟨(c.noteValue_status telegram).imp_right fun noted => ⟨telegram, rfl, noted⟩, .inl ?_⟩
    exact congrArg _ (c.noteValue_keeps telegram).2
  case h_6 => exact minds_of_eq _ rfl rfl

/-- A failure that is reported in the end changes nothing about that. -/
theorem Minds.reported {c : Context} {b : Body} (result : Except Failure Unit) {h : Handled}
    (minds : c.Minds b h.context) :
    c.Minds b (match (result, h) with
      | (.ok (), h) => h
      | (.error f, h) => { h with context := h.context.report f }).context := by
  cases result <;> exact ⟨minds.status, minds.told⟩

theorem minds_handleFrame (c : Context) (role : Role) (peers : Peers) (refusal : Refusal)
    (source : Endpoint) (b : Body) :
    let d := (c.handleFrame role peers refusal source b).context
    c.Minds b d ∧ (d.connection.told ≠ c.connection.told →
      ∃ id, c.connection.channelId = some id ∧ role.accepts .control = true ∧
        b.disconnect? = some id) := by
  unfold handleFrame
  cases verified : verifyChannel c.connection.channelId b with
  | error f => exact ⟨minds_of_eq b rfl rfl, fun h => (h rfl).elim⟩
  | ok _ =>
    cases known : role.handling b.service with
    | none => exact ⟨minds_of_eq b rfl rfl, fun h => (h rfl).elim⟩
    | some handling =>
      have minds := c.minds_handle peers refusal source handling b
      dsimp only
      generalize c.handle peers refusal source handling b = ended at minds ⊢
      obtain ⟨result, h⟩ := ended
      have all := minds.reported result
      refine ⟨all, fun changed => ?_⟩
      obtain ⟨id, asked⟩ := all.told.resolve_left changed
      obtain ⟨endpoint, rfl⟩ := Body.disconnect?_eq_some_iff.mp asked
      have own : some id = c.connection.channelId := by
        refine Decidable.byContradiction fun other => ?_
        have refused : verifyChannel c.connection.channelId (.disconnectRequest id endpoint) =
            .error (.connection (.wrongChannelId (.disconnectRequest id endpoint))) := if_neg other
        cases verified.symm.trans refused
      have control : role.accepts .control = true := by
        refine Decidable.byContradiction fun other => ?_
        have none := role.handling_disconnectRequest
        rw [if_neg other] at none
        cases known.symm.trans none
      exact ⟨id, own.symm, control, rfl⟩

/-- What a received datagram does to the known values, and who is told because of it. -/
theorem hears_dispatch (c : Context) (r : Receipt) (peers : Peers) (refusal : Refusal) :
    let d := (c.dispatch r.role peers refusal r.source r.bytes).context
    (∃ operations, d.status = c.status.run operations ∧
      (renewals operations).Sublist r.value?.toList) ∧
    (d.connection.told ≠ c.connection.told →
      ∃ id, c.connection.channelId = some id ∧ r.disconnect? = some id) := by
  obtain ⟨f, handled, -⟩ | ⟨frame, size, read, handled⟩ :=
    c.dispatch_cases r.role peers refusal r.source r.bytes
  · rw [handled]
    exact ⟨⟨[], rfl, List.nil_sublist _⟩, fun h => (h rfl).elim⟩
  · rw [handled]
    obtain ⟨minds, told⟩ :=
      (c.received frame size).minds_handleFrame r.role peers refusal r.source frame.body
    refine ⟨?_, fun changed => ?_⟩
    · obtain same | ⟨t, carried, noted⟩ := minds.status
      · exact ⟨[], same, List.nil_sublist _⟩
      · refine ⟨[.note t], noted, ?_⟩
        have brought : r.value? = (StatusPool.Operation.note t).update? := by
          rw [Receipt.value?, read, Option.bind_some, carried, Option.bind_some]
        rw [brought, renewals, List.filterMap_cons, List.filterMap_nil]
        cases (StatusPool.Operation.note t).update? <;> exact .refl _
    · obtain ⟨id, own, control, asked⟩ := told changed
      refine ⟨id, own, ?_⟩
      rw [Receipt.disconnect?, if_pos control, read]
      exact asked

end Context

/-! ## Worlds -/

namespace World

/-- The second world has come about from the first one, and nobody but the peer has asked to close
the connection. The known values went through these operations, and what they brought was
received. -/
structure Hears (operations : List StatusPool.Operation) (w v : World) : Prop where
  channelId : v.channelId = w.channelId
  status : v.context.status = w.context.status.run operations
  journal : ∃ since, v.journal = w.journal ++ since ∧
    (renewals operations).Sublist (values since) ∧
    (v.context.connection.told ≠ w.context.connection.told →
      ∃ id, w.channelId = some id ∧ id ∈ peerDisconnects since)

namespace Hears

variable {operations operations' : List StatusPool.Operation} {w v u : World}

/-- Nothing is heard that counts. -/
theorem of_eq (status : v.context.status = w.context.status)
    (channelId : v.channelId = w.channelId)
    (told : v.context.connection.told = w.context.connection.told) {since : List Happening}
    (journal : v.journal = w.journal ++ since) : w.Hears [] v :=
  ⟨channelId, status, since, journal, List.nil_sublist _, fun changed => (changed told).elim⟩

theorem refl (w : World) : w.Hears [] w := of_eq rfl rfl rfl (List.append_nil _).symm

theorem trans (h : w.Hears operations v) (k : v.Hears operations' u) :
    w.Hears (operations ++ operations') u := by
  obtain ⟨since, grown, brought, asked⟩ := h.journal
  obtain ⟨since', grown', brought', asked'⟩ := k.journal
  refine ⟨k.channelId.trans h.channelId, ?_, since ++ since', ?_, ?_, fun changed => ?_⟩
  · rw [k.status, h.status, run_append]
  · rw [grown', grown, List.append_assoc]
  · rw [renewals_append, values_append]
    exact brought.append brought'
  · rw [peerDisconnects_append]
    by_cases first : v.context.connection.told = w.context.connection.told
    · obtain ⟨id, held, mem⟩ := asked' fun same => changed (same.trans first)
      exact ⟨id, h.channelId.symm.trans held, List.mem_append_right _ mem⟩
    · obtain ⟨id, held, mem⟩ := asked first
      exact ⟨id, held, List.mem_append_left _ mem⟩

/-- Something is done before that does not count. -/
theorem after (k : v.Hears operations u) (h : w.Hears [] v) : w.Hears operations u := h.trans k

/-- Something is done behind it that does not count. -/
theorem before (h : w.Hears operations v) (k : v.Hears [] u) : w.Hears operations u := by
  simpa using h.trans k

end Hears

variable (n : Network) (w : World)

theorem hears_log (sender : Sender) (socket : Endpoint) (d : Datagram) (refused : Bool) :
    w.Hears [] (w.log sender socket d refused) := .of_eq rfl rfl rfl rfl

theorem hears_receive (s : Socket) (x : Waiting) :
    ∃ operations, w.Hears operations (w.receive n s x) := by
  cases x with
  | failure fault => exact ⟨[], .of_eq rfl rfl rfl (List.append_nil _).symm⟩
  | datagram source bytes =>
    let r : Receipt := ⟨s.role, s.address, source, bytes.take maxFrameSize⟩
    let noted := w.note (.received r)
    let refusal : Refusal := fun d => (n.react noted.attempts .receiver s.address d).refusal
    let h := w.context.dispatch r.role s.peers refusal r.source r.bytes
    obtain ⟨⟨operations, status, brought⟩, told⟩ := w.context.hears_dispatch r s.peers refusal
    refine ⟨operations, ?_⟩
    have handled : w.Hears operations { noted with context := h.context } := by
      refine ⟨(Context.keeps_dispatch ..).channelId, status, [.received r], rfl, ?_,
        fun changed => ?_⟩
      · rw [values, List.filterMap_cons, List.filterMap_nil, Happening.value?]
        cases value : r.value? <;> simpa [value] using brought
      · obtain ⟨id, held, asked⟩ := told changed
        exact ⟨id, held, by simp [peerDisconnects, Happening.peerDisconnect?, asked]⟩
    obtain ⟨-, ended⟩ | ⟨d, -, ended⟩ := receive_cases n w s source bytes
    · rw [ended]
      exact handled
    · rw [ended]
      exact handled.before (hears_log _ ..)

theorem hears_arrive (address : Endpoint) (x : Waiting) :
    ∃ operations, w.Hears operations (w.arrive n address x) := by
  unfold arrive
  split
  · exact ⟨[], .refl w⟩
  · split
    · exact ⟨[], .refl w⟩
    · split
      · exact hears_receive n w _ x
      · exact ⟨[], .of_eq rfl rfl rfl (List.append_nil _).symm⟩

theorem hears_arriveAll (arrivals : List Arrival) :
    ∃ operations, w.Hears operations (w.arriveAll n arrivals) := by
  induction arrivals generalizing w with
  | nil => exact ⟨[], .refl w⟩
  | cons a arrivals ih =>
    obtain ⟨first, heard⟩ := w.hears_arrive n a.socket (.datagram a.source a.bytes)
    obtain ⟨rest, others⟩ := ih (w.arrive n a.socket (.datagram a.source a.bytes))
    exact ⟨first ++ rest, heard.trans others⟩

theorem hears_sendTo (address : Endpoint) (b : Body) (destination : Endpoint) :
    ∃ operations, w.Hears operations (w.sendTo n address b destination).2 := by
  obtain ⟨f, -, ended⟩ | ⟨d, -, -, ⟨fault, -, ended⟩ | ⟨-, ended⟩⟩ :=
    sendTo_cases n w address b destination
  · rw [ended]
    exact ⟨[], .refl w⟩
  · rw [ended]
    exact ⟨[], w.hears_log ..⟩
  · rw [ended]
    obtain ⟨operations, heard⟩ := hears_arriveAll n (w.log .caller address d false)
      (n.react w.attempts .caller address d).arrivals
    have counted := heard.before (.of_eq (v := World.withContext _ (·.sent (Frame.ofBody b)
      d.bytes.length)) rfl rfl rfl (List.append_nil _).symm)
    exact ⟨operations, counted.after (w.hears_log ..)⟩

theorem hears_send (s : Socket) (b : Body) :
    ∃ operations, w.Hears operations (w.send n s b).2 := hears_sendTo n w ..

theorem hears_withCorrelator (correlator : Correlator) :
    w.Hears [] (w.withContext fun c => { c with correlator }) :=
  .of_eq rfl rfl rfl (List.append_nil _).symm

theorem hears_request (s : Socket) (b : Body) :
    ∃ operations, w.Hears operations (w.request n s b).2 := by
  obtain ⟨f, -, ended⟩ | ⟨key, correlator, -, ended⟩ := request_cases n w s b
  · rw [ended]
    exact ⟨[], .refl w⟩
  · obtain ⟨operations, heard⟩ :=
      hears_send n (w.withContext fun c => { c with correlator }) s b
    have all := heard.after (w.hears_withCorrelator correlator)
    obtain ⟨f, -, ended⟩ | ⟨-, ended⟩ := ended
    · rw [ended]
      exact ⟨operations, all⟩
    · rw [ended]
      exact ⟨operations, all⟩

theorem hears_repeatRequest {α : Type} (s : Socket) (b : Body) (accept : Body → Option α)
    (budget : Nat) (last : Option Body) :
    ∃ operations, w.Hears operations (repeatRequest n s b accept budget last w).2 := by
  induction budget generalizing last w with
  | zero => exact ⟨[], .refl w⟩
  | succ budget ih =>
    obtain ⟨first, heard⟩ := hears_request n w s b
    unfold repeatRequest
    generalize w.request n s b = ended at heard ⊢
    obtain ⟨result, v⟩ := ended
    have again : ∀ last, ∃ operations,
        w.Hears operations (repeatRequest n s b accept budget last v).2 := by
      intro last
      obtain ⟨rest, others⟩ := ih v last
      exact ⟨first ++ rest, heard.trans others⟩
    cases result with
    | error f => exact ⟨first, heard⟩
    | ok found =>
      cases found with
      | none => exact again last
      | some r =>
        dsimp only
        cases accept r with
        | some a => exact ⟨first, heard⟩
        | none => exact again (some r)

theorem hears_check (s : Socket) (channel : UInt8) (endpoint : Endpoint) :
    ∃ operations, w.Hears operations (w.check n s channel endpoint).2 := by
  obtain ⟨operations, heard⟩ := hears_request n w s (.connectionStateRequest channel endpoint)
  refine ⟨operations, ?_⟩
  unfold check
  split
  case h_1 ended => rwa [ended] at heard
  case h_2 ended => rwa [ended] at heard
  case h_3 ended => rwa [ended] at heard

/-- What the watch does is heard as everything is, or it gives the connection up. -/
theorem hears_watch (s : Socket) (endpoint : Endpoint) (k : KeepAlive) :
    (∃ operations, w.Hears operations (w.watch n s endpoint k).2) ∨
      (w.watch n s endpoint k).1.phase = .over true ∧
        ∃ operations v, w.Hears operations v ∧ (w.watch n s endpoint k).2 = v.giveUp := by
  unfold watch
  dsimp only
  split
  case h_1 channel _ =>
    obtain ⟨operations, heard⟩ := w.hears_check n s channel endpoint
    generalize w.check n s channel endpoint = ended at heard ⊢
    obtain ⟨alive, v⟩ := ended
    dsimp only
    generalize KeepAlive.judge _ _ = judged
    by_cases gone : judged.phase = .over true
    · exact .inr ⟨gone, operations, v, heard, if_pos gone⟩
    · rw [if_neg gone]
      exact .inl ⟨operations, heard⟩
  case h_2 => exact .inl ⟨[], .refl w⟩

theorem watch_of_over (s : Socket) (endpoint : Endpoint) {k : KeepAlive} {gaveUp : Bool}
    (gone : k.phase = .over gaveUp) : w.watch n s endpoint k = (k, w) := by
  have due : k.due w.context.connection.channelId = k := by
    simp only [KeepAlive.due, gone]
  simp only [watch, due, gone]

theorem hears_bind (role : Role) (here peer : Endpoint) :
    w.Hears [] (w.bind n role here peer).2 := by
  obtain ⟨fault, -, ended⟩ | ⟨-, ended⟩ := bind_cases n w role here peer
  · rw [ended]
    exact .refl w
  · rw [ended]
    exact .of_eq rfl rfl rfl (List.append_nil _).symm

theorem hears_withSocket {α : Type} (settings : Settings) (role : Role) (socket : SocketSettings)
    (peer : Endpoint) (procedure : Socket → World → Except Failure α × World)
    (hears : ∀ (s : Socket) (v : World), ∃ operations, v.Hears operations (procedure s v).2) :
    ∃ operations,
      w.Hears operations (w.withSocket n settings role socket peer procedure).2 := by
  have opened := hears_bind n w role ⟨settings.interfaceTo n peer, socket.port⟩ peer
  unfold withSocket
  generalize w.bind n role ⟨settings.interfaceTo n peer, socket.port⟩ peer = ended at opened ⊢
  obtain ⟨result, v⟩ := ended
  cases result with
  | error f => exact ⟨[], opened⟩
  | ok s =>
    obtain ⟨operations, heard⟩ := hears s v
    refine ⟨operations, (heard.after opened).before ?_⟩
    exact .of_eq rfl rfl rfl (List.append_nil _).symm

theorem hears_discover (settings : Settings) :
    ∃ operations, w.Hears operations (discover n settings w).2 := by
  refine hears_withSocket n w _ _ _ _ _ fun s v => ?_
  obtain ⟨operations, heard⟩ := hears_repeatRequest n v s (.searchRequest (settings.announced s))
    FoundGateway.ofBody settings.retries.discovery.toNat none
  refine ⟨operations, ?_⟩
  dsimp only
  split
  case h_1 ended => rwa [ended] at heard
  case h_2 ended => rwa [ended] at heard
  case h_3 ended => rwa [ended] at heard

theorem hears_exchangeDescription (settings : Settings) (remote : Endpoint) :
    ∃ operations, w.Hears operations (exchangeDescription n settings remote w).2 := by
  refine hears_withSocket n w _ _ _ _ _ fun s v => ?_
  obtain ⟨operations, heard⟩ := hears_repeatRequest n v s
    (.descriptionRequest (settings.announced s)) Description.ofBody
    settings.retries.description.toNat none
  refine ⟨operations, ?_⟩
  dsimp only
  split
  case h_1 ended => rwa [ended] at heard
  case h_2 ended => rwa [ended] at heard
  case h_3 ended => rwa [ended] at heard

theorem hears_describeForTunneling (settings : Settings) (remote : Endpoint) :
    ∃ operations, w.Hears operations (describeForTunneling n settings remote w).2 := by
  obtain ⟨operations, heard⟩ := hears_exchangeDescription n w settings remote
  refine ⟨operations, ?_⟩
  unfold describeForTunneling
  generalize exchangeDescription n settings remote w = ended at heard ⊢
  obtain ⟨result, v⟩ := ended
  cases result with
  | error f => exact heard
  | ok found =>
    dsimp only
    split <;> exact heard

end World
end KnxIp
