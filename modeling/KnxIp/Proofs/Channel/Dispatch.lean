/-
  What handling a received datagram changes, and what it does not.

  Whatever arrives, the channel of the connection stays as it is, and the observers hear of
  frames and failures only (`Context.Keeps`). What the correlator learns depends on the body that
  is read: a body with the identifier of another channel teaches it nothing, a response is noted
  under its exchange, and a disconnect request is registered as one of the peer
  (`correlator_dispatch`). What is sent in reply is never a request, and is sent only while there
  is a channel (`reply_dispatch`). A report counts one error, puts one event into the queue, and
  does nothing else (`Context.Reports`).
-/
import KnxIp.Proofs.Frame.Written

namespace KnxIp

/-- The event is about the life of the client. -/
def Event.isLifecycle : Event → Bool
  | .init | .start | .shutdown => true
  | _ => false

/-- The events about the life of the client that wait for a worker, oldest first. -/
def Observers.lifecycle (o : Observers) : List Event := o.queue.filter Event.isLifecycle

theorem Observers.notify_eq (o : Observers) (e : Event) :
    o.notify e = { o with queue := o.queue ++ if o.accepting then [e] else [] } := by
  unfold notify
  split
  · rfl
  · rw [List.append_nil]

theorem Observers.lifecycle_notify (o : Observers) (e : Event) :
    (o.notify e).lifecycle =
      o.lifecycle ++ if o.accepting && e.isLifecycle then [e] else [] := by
  rw [notify_eq]
  unfold lifecycle
  cases o.accepting <;> cases h : e.isLifecycle <;> simp [h]

theorem Observers.accepting_notify (o : Observers) (e : Event) :
    (o.notify e).accepting = o.accepting := by
  rw [notify_eq]

/-- What a correlator learns from a body that is handled. -/
def Correlator.learn (c : Correlator) : Handling → Body → Correlator
  | .record, b => c.record b
  | .endConnection, b => c.registerInbound b
  | _, _ => c

/-- What a correlator learns from a received body, when this is the identifier of the channel. -/
def Correlator.heard (c : Correlator) (channel : Option UInt8) (role : Role) (b : Body) :
    Correlator :=
  match verifyChannel channel b, role.handling b.service with
  | .ok (), some handling => c.learn handling b
  | _, _ => c

theorem Correlator.heard_of_ok {c : Correlator} {channel : Option UInt8} {role : Role} {b : Body}
    {handling : Handling} (verified : verifyChannel channel b = .ok ())
    (known : role.handling b.service = some handling) :
    c.heard channel role b = c.learn handling b := by
  rw [heard, verified, known]

theorem Role.eq_disconnectRequest_of_handling {role : Role} {s : Service}
    (h : role.handling s = some .endConnection) : s = .disconnectRequest := by
  cases role <;> cases s <;> first | rfl | cases h

namespace Context

/-! ## What stays as it is -/

/-- Between the two contexts the channel did not change, and nothing about the life of the client
was told to the observers. -/
structure Keeps (c d : Context) : Prop where
  channelId : d.connection.channelId = c.connection.channelId
  accepting : d.observers.accepting = c.observers.accepting
  lifecycle : d.observers.lifecycle = c.observers.lifecycle

theorem Keeps.refl (c : Context) : c.Keeps c := ⟨rfl, rfl, rfl⟩

theorem Keeps.trans {c d e : Context} (h : c.Keeps d) (k : d.Keeps e) : c.Keeps e :=
  ⟨k.channelId.trans h.channelId, k.accepting.trans h.accepting, k.lifecycle.trans h.lifecycle⟩

/-- Telling the observers of an event that is not about the life of the client, with other
counters. -/
theorem keeps_notify (c : Context) (statistics : Statistics) {e : Event}
    (h : e.isLifecycle = false) : c.Keeps ({ c with statistics }.notify e) := by
  refine ⟨rfl, Observers.accepting_notify _ _, ?_⟩
  show (c.observers.notify e).lifecycle = _
  rw [Observers.lifecycle_notify, h, Bool.and_false]
  exact List.append_nil _

theorem keeps_report (c : Context) (f : Failure) : c.Keeps (c.report f) :=
  keeps_notify c c.statistics.failed (e := .error f) rfl

theorem keeps_received (c : Context) (f : Frame) (size : Nat) : c.Keeps (c.received f size) :=
  keeps_notify c (c.statistics.received f.header.service size) (e := .incoming f) rfl

theorem keeps_sent (c : Context) (f : Frame) (size : Nat) : c.Keeps (c.sent f size) :=
  keeps_notify c (c.statistics.sent f.header.service size) (e := .outgoing f) rfl

theorem keeps_requestClose (c : Context) : c.Keeps c.requestClose := by
  refine ⟨?_, rfl, rfl⟩
  show c.connection.requestClose.channelId = _
  unfold Connection.requestClose
  split <;> rfl

theorem keeps_noteValue (c : Context) (t : Telegram) : c.Keeps (c.noteValue t) := by
  unfold noteValue
  split
  · exact .refl c
  · exact ⟨rfl, rfl, rfl⟩

/-! ## What a report does, and what asking for a close does -/

/-- From one context to the other a failure was counted, and put into the queue of the observers if
they accept events. The exchanges and the known values are as they were. -/
structure Reports (c : Context) (f : Failure) (d : Context) : Prop where
  statistics : d.statistics = { c.statistics with errors := c.statistics.errors + 1 }
  observers : d.observers = { c.observers with
    queue := c.observers.queue ++ if c.observers.accepting then [.error f] else [] }
  correlator : d.correlator = c.correlator
  status : d.status = c.status

/-- A report leaves the connection alone. -/
theorem reports_report (c : Context) (f : Failure) :
    c.Reports f (c.report f) ∧ (c.report f).connection = c.connection :=
  ⟨⟨rfl, Observers.notify_eq _ _, rfl, rfl⟩, rfl⟩

theorem connection_requestClose (c : Context) :
    c.requestClose.connection = { c.connection with
      told := c.connection.told ++ c.connection.listener.toList } := by
  show c.connection.requestClose = _
  unfold Connection.requestClose
  obtain ⟨channel, last, listener, told⟩ := c.connection
  cases listener with
  | none => simp
  | some name => rfl

/-! ## One function after the other -/

/-- What handling a body in some way has led to. -/
structure Handles (c : Context) (handling : Handling) (b : Body) (h : Handled) : Prop where
  keeps : c.Keeps h.context
  correlator : h.context.correlator = c.correlator.learn handling b
  /-- A reply is no request, and answers a body that is refused without a channel. -/
  reply : ∀ d, h.reply = some d →
    verifyChannel none b ≠ .ok () ∧
      ∃ r : Body, (Frame.ofBody r).bytes = .ok d.bytes ∧ r.service.response = none

theorem correlator_noteValue (c : Context) (t : Telegram) :
    (c.noteValue t).correlator = c.correlator := by
  unfold noteValue
  split <;> rfl

theorem reply_spec (c : Context) (refusal : Refusal) (b : Body) (destination : Endpoint) :
    let h := (c.reply refusal b destination).2
    c.Keeps h.context ∧ h.context.correlator = c.correlator ∧
      ∀ d, h.reply = some d → (Frame.ofBody b).bytes = .ok d.bytes := by
  intro h
  cases hb : (Frame.ofBody b).bytes with
  | error f =>
    have silent : h = ⟨c, none⟩ := by simp only [h, reply, hb]
    rw [silent]
    exact ⟨.refl c, rfl, nofun⟩
  | ok bytes =>
    cases hr : refusal ⟨bytes, destination⟩ with
    | some fault =>
      have refused : h = ⟨c, some ⟨bytes, destination⟩⟩ := by simp only [h, reply, hb, hr]
      rw [refused]
      exact ⟨.refl c, rfl, fun d hd => by cases hd; rfl⟩
    | none =>
      have sent : h = ⟨c.sent (Frame.ofBody b) bytes.length, some ⟨bytes, destination⟩⟩ := by
        simp only [h, reply, hb, hr]
      rw [sent]
      exact ⟨keeps_sent c _ _, rfl, fun d hd => by cases hd; rfl⟩

theorem handles_handle (c : Context) (peers : Peers) (refusal : Refusal) (source : Endpoint)
    {role : Role} {handling : Handling} {b : Body}
    (known : role.handling b.service = some handling) :
    c.Handles handling b (c.handle peers refusal source handling b).2 := by
  unfold handle
  split
  case h_1 => exact ⟨⟨rfl, rfl, rfl⟩, rfl, fun d hd => by cases hd⟩
  case h_2 id endpoint =>
    obtain ⟨keeps, same, sent⟩ :=
      reply_spec c refusal (.connectionStateResponse id statusOk) (endpoint.replyTo source)
    exact ⟨keeps, same, fun d hd => ⟨nofun, _, sent d hd, rfl⟩⟩
  case h_3 id endpoint =>
    let registered := c.correlator.registerInbound (.disconnectRequest id endpoint)
    obtain ⟨keeps, same, sent⟩ :=
      reply_spec { c with correlator := registered }
        refusal (.disconnectResponse id statusOk) (endpoint.replyTo source)
    refine ⟨?_, same, fun d hd => ⟨nofun, _, sent d hd, rfl⟩⟩
    exact Keeps.trans ⟨keeps.channelId, keeps.accepting, keeps.lifecycle⟩ (keeps_requestClose _)
  case h_4 header telegram =>
    obtain ⟨keeps, same, sent⟩ :=
      reply_spec c refusal (.tunnelingAck ⟨header.channel, header.sequence, statusOk⟩)
        (peers.ofChannel .data)
    dsimp only
    generalize c.reply refusal (.tunnelingAck ⟨header.channel, header.sequence, statusOk⟩)
      (peers.ofChannel .data) = answer at keeps same sent ⊢
    obtain ⟨result, h⟩ := answer
    cases result with
    | error f => exact ⟨keeps, same, fun d hd => ⟨nofun, _, sent d hd, rfl⟩⟩
    | ok _ =>
      refine ⟨?_, ?_, fun d hd => ⟨nofun, _, sent d hd, rfl⟩⟩
      · refine keeps.trans (Keeps.trans (d := { h.context with
          connection := (h.context.connection.accept header.sequence).2 }) ⟨rfl, rfl, rfl⟩ ?_)
        dsimp only
        split
        · exact keeps_noteValue _ _
        · exact .refl _
      · dsimp only
        split
        · exact (correlator_noteValue _ _).trans same
        · exact same
  case h_5 telegram =>
    exact ⟨keeps_noteValue c telegram, correlator_noteValue c telegram, fun d hd => by cases hd⟩
  case h_6 noRecord _ noEnd _ _ =>
    refine ⟨.refl c, ?_, fun d hd => by cases hd⟩
    cases handling with
    | record => exact (noRecord rfl).elim
    | endConnection =>
      have service := Role.eq_disconnectRequest_of_handling known
      cases b with
      | disconnectRequest id endpoint => exact (noEnd id endpoint rfl rfl).elim
      | _ => cases service
    | _ => rfl

/-- What a received body has led to. -/
structure Takes (c : Context) (role : Role) (b : Body) (h : Handled) : Prop where
  keeps : c.Keeps h.context
  correlator : h.context.correlator = c.correlator.heard c.connection.channelId role b
  reply : ∀ d, h.reply = some d →
    c.connection.channelId ≠ none ∧
      ∃ r : Body, (Frame.ofBody r).bytes = .ok d.bytes ∧ r.service.response = none

/-- What handling leads to when the failure that it ends with, if any, is reported. -/
theorem Handles.takes {c : Context} {role : Role} {handling : Handling} {b : Body}
    {result : Except Failure Unit} {h : Handled} (handles : c.Handles handling b h)
    (verified : verifyChannel c.connection.channelId b = .ok ())
    (known : role.handling b.service = some handling) :
    c.Takes role b (match (result, h) with
      | (.ok (), h) => h
      | (.error f, h) => { h with context := h.context.report f }) := by
  have learned : h.context.correlator = c.correlator.heard c.connection.channelId role b := by
    rw [handles.correlator, Correlator.heard_of_ok verified known]
  have answered : ∀ d, h.reply = some d → c.connection.channelId ≠ none ∧
      ∃ r : Body, (Frame.ofBody r).bytes = .ok d.bytes ∧ r.service.response = none := by
    intro d hd
    obtain ⟨refused, r, written, noRequest⟩ := handles.reply d hd
    exact ⟨fun noChannel => refused (noChannel ▸ verified), r, written, noRequest⟩
  cases result with
  | ok _ => exact ⟨handles.keeps, learned, answered⟩
  | error f => exact ⟨handles.keeps.trans (keeps_report _ f), learned, answered⟩

theorem takes_handleFrame (c : Context) (role : Role) (peers : Peers) (refusal : Refusal)
    (source : Endpoint) (b : Body) :
    c.Takes role b (c.handleFrame role peers refusal source b) := by
  unfold handleFrame
  cases verified : verifyChannel c.connection.channelId b with
  | error f =>
    refine ⟨keeps_report c f, ?_, nofun⟩
    simp only [report, notify, Correlator.heard, verified]
  | ok _ =>
    cases known : role.handling b.service with
    | none =>
      refine ⟨.refl c, ?_, nofun⟩
      simp only [Correlator.heard, verified, known]
    | some handling => exact (handles_handle c peers refusal source known).takes verified known

/-! ## A received datagram -/

variable (c : Context) (role : Role) (peers : Peers) (refusal : Refusal) (source : Endpoint)
  (bytes : Bytes)

theorem dispatch_cases :
    (∃ f, c.dispatch role peers refusal source bytes = ⟨c.report f, none⟩ ∧
      Frame.bodyIn? bytes = none) ∨
    ∃ frame size, Frame.bodyIn? bytes = some frame.body ∧
      c.dispatch role peers refusal source bytes =
        (c.received frame size).handleFrame role peers refusal source frame.body := by
  unfold dispatch
  cases decoded : Frame.decode bytes with
  | error f => exact .inl ⟨.fault f, rfl, Frame.bodyIn?_of_error decoded⟩
  | ok frame =>
    have read := Frame.bodyIn?_eq_some_iff.mpr ⟨frame, decoded, rfl⟩
    exact .inr ⟨frame, bytes.length, read, rfl⟩

theorem keeps_dispatch : c.Keeps (c.dispatch role peers refusal source bytes).context := by
  obtain ⟨f, handled, -⟩ | ⟨frame, size, -, handled⟩ :=
    c.dispatch_cases role peers refusal source bytes
  · rw [handled]
    exact keeps_report c f
  · rw [handled]
    exact (keeps_received c frame size).trans (takes_handleFrame ..).keeps

theorem correlator_dispatch :
    (c.dispatch role peers refusal source bytes).context.correlator =
      match Frame.bodyIn? bytes with
      | some b => c.correlator.heard c.connection.channelId role b
      | none => c.correlator := by
  obtain ⟨f, handled, unread⟩ | ⟨frame, size, read, handled⟩ :=
    c.dispatch_cases role peers refusal source bytes
  · rw [handled, unread]
    rfl
  · rw [handled, read]
    exact (takes_handleFrame ..).correlator

theorem reply_dispatch {d : Datagram}
    (h : (c.dispatch role peers refusal source bytes).reply = some d) :
    c.connection.channelId ≠ none ∧
      ∃ r : Body, (Frame.ofBody r).bytes = .ok d.bytes ∧ r.service.response = none := by
  obtain ⟨f, handled, -⟩ | ⟨frame, size, -, handled⟩ :=
    c.dispatch_cases role peers refusal source bytes
  · rw [handled] at h
    cases h
  · rw [handled] at h
    exact (takes_handleFrame (c.received frame size) ..).reply d h

end Context

/-! ## Disconnect requests of the peer -/

/-- The last request to close the channel came from the peer. -/
def Correlator.peerClosed (c : Correlator) : Bool := (c.slot .disconnect).hasInboundRequest

theorem Body.disconnect?_eq_some_iff {b : Body} {id : UInt8} :
    b.disconnect? = some id ↔ ∃ endpoint, b = .disconnectRequest id endpoint := by
  cases b <;> simp [disconnect?]

theorem Correlator.peerClosed_record (c : Correlator) (b : Body) :
    (c.record b).peerClosed = c.peerClosed := by
  unfold record peerClosed
  split
  case h_1 k _ =>
    by_cases h : k = .disconnect
    · subst h
      rw [slot_set_self]
      rfl
    · rw [slot_set_of_ne _ _ (Ne.symm h)]
  case h_2 => rfl

theorem Correlator.register_eq_ok {c d : Correlator} {b : Body} {k : ExchangeKey}
    (h : c.register b = .ok (k, d)) :
    ExchangeKey.ofRequest b = some k ∧ d = c.set k (.registered b) := by
  unfold register at h
  split at h
  case h_1 j key =>
    obtain ⟨rfl, rfl⟩ := Prod.mk.inj (Except.ok.inj h)
    exact ⟨key, rfl⟩
  case h_2 => cases h

theorem Correlator.peerClosed_register {c d : Correlator} {b : Body} {k : ExchangeKey}
    (asked : b.disconnect? = none) (h : c.register b = .ok (k, d)) :
    d.peerClosed = c.peerClosed := by
  obtain ⟨key, rfl⟩ := register_eq_ok h
  have other : .disconnect ≠ k := by
    rintro rfl
    cases b with
    | disconnectRequest => cases asked
    | _ => cases key
  rw [peerClosed, slot_set_of_ne _ _ other]
  rfl

theorem Role.handling_disconnectRequest (role : Role) :
    role.handling .disconnectRequest =
      if role.accepts .control then some .endConnection else none := by
  cases role <;> rfl

theorem Correlator.peerClosed_learn (c : Correlator) {handling : Handling} {b : Body}
    (h : b.disconnect? = none) : (c.learn handling b).peerClosed = c.peerClosed := by
  cases handling with
  | record => exact c.peerClosed_record b
  | endConnection =>
    cases b with
    | disconnectRequest => cases h
    | _ => simp [learn, registerInbound, ExchangeKey.ofRequest, peerClosed, set]
  | _ => rfl

theorem Correlator.peerClosed_heard (c : Correlator) (channel : Option UInt8) (role : Role)
    (b : Body) :
    (c.heard channel role b).peerClosed = true ↔
      c.peerClosed = true ∨
        ∃ id, channel = some id ∧ role.accepts .control = true ∧ b.disconnect? = some id := by
  cases asked : b.disconnect? with
  | none =>
    have same : (c.heard channel role b).peerClosed = c.peerClosed := by
      unfold heard
      split
      · exact c.peerClosed_learn asked
      · rfl
    simp [same]
  | some id =>
    obtain ⟨endpoint, rfl⟩ := Body.disconnect?_eq_some_iff.mp asked
    have known : role.handling (Body.disconnectRequest id endpoint).service =
        if role.accepts .control then some .endConnection else none :=
      role.handling_disconnectRequest
    by_cases ours : some id = channel
    · have verified : verifyChannel channel (.disconnectRequest id endpoint) = .ok () := if_pos ours
      rw [heard, verified, known]
      cases accepts : role.accepts .control with
      | true =>
        have closed : (c.registerInbound (.disconnectRequest id endpoint)).peerClosed = true := by
          simp [registerInbound, ExchangeKey.ofRequest, peerClosed, Exchange.registerInbound,
            Exchange.hasInboundRequest]
        simp [learn, closed, ← ours]
      | false => simp
    · have refused : verifyChannel channel (.disconnectRequest id endpoint) =
          .error (.connection (.wrongChannelId (.disconnectRequest id endpoint))) := if_neg ours
      rw [heard, refused]
      have other : ∀ i, channel = some i → id ≠ i := fun i hi h => ours (h ▸ hi.symm)
      simp only [Option.some.injEq]
      refine ⟨.inl, ?_⟩
      rintro (h | ⟨i, hi, -, rfl⟩)
      · exact h
      · exact (other _ hi rfl).elim

/-- The peer was the last to ask for the channel to be closed when it was before, or does so in the
datagram. -/
theorem Context.peerClosed_dispatch (c : Context) (r : Receipt) (peers : Peers)
    (refusal : Refusal) :
    (c.dispatch r.role peers refusal r.source r.bytes).context.correlator.peerClosed = true ↔
      c.correlator.peerClosed = true ∨
        ∃ id, c.connection.channelId = some id ∧ r.disconnect? = some id := by
  rw [correlator_dispatch, Receipt.disconnect?]
  cases Frame.bodyIn? r.bytes with
  | none => simp
  | some b =>
    rw [Correlator.peerClosed_heard]
    simp

end KnxIp
