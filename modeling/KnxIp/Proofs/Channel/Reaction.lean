/-
  How a socket reacts to one datagram, while the transport takes what it is given.

  A datagram that cannot be read, or whose body belongs to another channel (`Body.Foreign`), is
  refused: it has no effect but one more error (`Context.Refuses`). Anything else counts no error.
  Three kinds of request are answered (`Body.answer?`), by the one response that goes with them, and
  of these only a disconnect request asks for the connection to be closed (`Context.Answers`). No
  response is ever answered, so two peers cannot keep each other busy.

  Main statement: `reaction_of_dispatch`.
-/
import KnxIp.Proofs.Channel.Dispatch

namespace KnxIp

/-- The body carries the identifier of a channel that is not the expected one. Connect responses are
never foreign: they assign the identifier. -/
def Body.Foreign (b : Body) (expected : Option UInt8) : Prop :=
  b.service ≠ .connectResponse ∧ ∃ id, b.channelId = some id ∧ some id ≠ expected

theorem verifyChannel_of_not_foreign {expected : Option UInt8} {b : Body}
    (h : ¬ b.Foreign expected) : verifyChannel expected b = .ok () := by
  unfold verifyChannel
  by_cases assigns : b.service = .connectResponse
  · exact if_pos assigns
  · rw [if_neg assigns]
    cases channel : b.channelId with
    | none => rfl
    | some id =>
      have own : some id = expected :=
        Decidable.byContradiction fun other => h ⟨assigns, id, channel, other⟩
      exact if_pos own

theorem verifyChannel_of_foreign {expected : Option UInt8} {b : Body} (h : b.Foreign expected) :
    verifyChannel expected b = .error (.connection (.wrongChannelId b)) := by
  obtain ⟨assigns, id, channel, other⟩ := h
  rw [verifyChannel, if_neg assigns, channel]
  exact if_neg other

/-- The answer to a request of the peer, if it gets one. -/
def Body.answer? : Body → Option Body
  | .connectionStateRequest id _ => some (.connectionStateResponse id statusOk)
  | .disconnectRequest id _ => some (.disconnectResponse id statusOk)
  | .tunnelingRequest header _ => some (.tunnelingAck ⟨header.channel, header.sequence, statusOk⟩)
  | _ => none

theorem Body.isSome_answer? (b : Body) :
    b.answer?.isSome = true ↔
      b.service = .connectionStateRequest ∨ b.service = .disconnectRequest ∨
        b.service = .tunnelingRequest := by
  cases b <;> simp [answer?, service]

/-- The answer is the response that goes with the request: of the same channel, with the same
sequence number, and with good status. -/
theorem Body.of_answer? {b r : Body} (h : b.answer? = some r) :
    b.service.response = some r.service ∧ r.channelId = b.channelId ∧ r.sequence = b.sequence ∧
      r.status = some statusOk := by
  cases b <;> cases h <;> exact ⟨rfl, rfl, rfl, rfl⟩

theorem Body.bodyIn?_of_answer? {b r : Body} (h : b.answer? = some r) :
    ∃ bytes, (Frame.ofBody r).bytes = .ok bytes ∧ Frame.bodyIn? bytes = some r := by
  cases b <;> cases h <;>
    exact Frame.bodyIn?_of_representable trivial (Nat.le_of_ble_eq_true rfl)

/-- What the roles that handle a service type do with its frames. -/
def Service.task : Service → Handling
  | connectionStateRequest => .confirmState
  | disconnectRequest => .endConnection
  | tunnelingRequest => .acceptTelegram
  | routingIndication => .noteValue
  | routingLostMessage | routingBusy => .ignore
  | _ => .record

/-- Of the roles that handle a service type, all do the same. -/
theorem Role.eq_task_of_handling {role : Role} {s : Service} {handling : Handling}
    (h : role.handling s = some handling) : handling = s.task := by
  cases role <;> cases s <;> cases h <;> rfl

namespace Context

/-- The datagram is refused: it has no effect but one more error. -/
structure Refuses (c : Context) (h : Handled) : Prop where
  reply : h.reply = none
  correlator : h.context.correlator = c.correlator
  status : h.context.status = c.status
  connection : h.context.connection = c.connection
  errors : h.context.statistics.errors = c.statistics.errors + 1

/-- A body is handled: without an error, with the answer that it gets, and the connection is asked
to be closed exactly if that is what the body says. -/
structure Answers (c : Context) (b : Body) (h : Handled) : Prop where
  errors : h.context.statistics.errors = c.statistics.errors
  reply : h.reply.map Datagram.body? = b.answer?.map some
  told : h.context.connection.told = c.connection.told ++
    if b.service = .disconnectRequest then c.connection.listener.toList else []

variable {refusal : Refusal}

/-- A reply that the transport takes is counted. -/
theorem reply_of_sends (sends : ∀ d, refusal d = none) (c : Context) {b r : Body}
    (answer : b.answer? = some r) (destination : Endpoint) :
    ∃ bytes, Frame.bodyIn? bytes = some r ∧
      c.reply refusal r destination =
        (.ok (), ⟨c.sent (Frame.ofBody r) bytes.length, some ⟨bytes, destination⟩⟩) := by
  obtain ⟨bytes, written, read⟩ := Body.bodyIn?_of_answer? answer
  refine ⟨bytes, read, ?_⟩
  simp only [reply, written, sends]

theorem told_requestClose (c : Context) :
    c.requestClose.connection.told = c.connection.told ++ c.connection.listener.toList :=
  congrArg Connection.told c.connection_requestClose

theorem noteValue_keeps (c : Context) (t : Telegram) :
    (c.noteValue t).statistics = c.statistics ∧ (c.noteValue t).connection = c.connection := by
  unfold noteValue
  split <;> exact ⟨rfl, rfl⟩

/-- The context after a telegram of the tunnel has come: its sequence number is noted, and its value
unless the telegram is a repetition. -/
def accepted (c : Context) (header : TunnelHeader) (telegram : Telegram) : Context :=
  let (isNew, connection) := c.connection.accept header.sequence
  let c := { c with connection }
  if isNew then c.noteValue telegram else c

theorem accepted_keeps (c : Context) (header : TunnelHeader) (telegram : Telegram) :
    (c.accepted header telegram).statistics = c.statistics ∧
      (c.accepted header telegram).connection =
        { c.connection with lastSequence := some header.sequence } := by
  unfold accepted Connection.accept
  dsimp only
  split
  · exact noteValue_keeps _ telegram
  · exact ⟨rfl, rfl⟩

theorem status_accepted (c : Context) (header : TunnelHeader) (telegram : Telegram) :
    (c.accepted header telegram).status =
      if c.connection.lastSequence = some header.sequence then c.status
      else (c.noteValue telegram).status := by
  unfold accepted Connection.accept
  by_cases again : c.connection.lastSequence = some header.sequence
  · simp [again]
  · simp only [again, ne_eq, not_false_eq_true, decide_true, if_true, if_false, noteValue]
    split <;> rfl

/-- A telegram of the tunnel is acknowledged to the data peer. -/
theorem handle_acceptTelegram (sends : ∀ d, refusal d = none) (c : Context) (peers : Peers)
    (source : Endpoint) (header : TunnelHeader) (telegram : Telegram) :
    let ack : Body := .tunnelingAck ⟨header.channel, header.sequence, statusOk⟩
    ∃ bytes, Frame.bodyIn? bytes = some ack ∧
      c.handle peers refusal source .acceptTelegram (.tunnelingRequest header telegram) =
        (.ok (), ⟨(c.sent (Frame.ofBody ack) bytes.length).accepted header telegram,
          some ⟨bytes, peers.ofChannel .data⟩⟩) := by
  intro ack
  obtain ⟨bytes, read, replied⟩ := reply_of_sends sends c
    (b := .tunnelingRequest header telegram) rfl (peers.ofChannel .data)
  refine ⟨bytes, read, ?_⟩
  rw [handle]
  dsimp only
  rw [replied]
  rfl

/-- Handling a body by what the role says, one kind of body after the other. -/
theorem answers_handle (sends : ∀ d, refusal d = none) (c : Context) (peers : Peers)
    (source : Endpoint) {role : Role} {handling : Handling} {b : Body}
    (known : role.handling b.service = some handling) :
    ∃ h, c.handle peers refusal source handling b = (.ok (), h) ∧ c.Answers b h := by
  obtain rfl := Role.eq_task_of_handling known
  cases b with
  | connectionStateRequest id endpoint =>
    obtain ⟨bytes, read, replied⟩ := reply_of_sends sends c
      (b := .connectionStateRequest id endpoint) rfl (endpoint.replyTo source)
    exact ⟨_, replied, rfl, congrArg some read, (List.append_nil _).symm⟩
  | disconnectRequest id endpoint =>
    let noted : Context :=
      { c with correlator := c.correlator.registerInbound (.disconnectRequest id endpoint) }
    obtain ⟨bytes, read, replied⟩ := reply_of_sends sends noted
      (b := .disconnectRequest id endpoint) rfl (endpoint.replyTo source)
    let answered := noted.sent (Frame.ofBody (.disconnectResponse id statusOk)) bytes.length
    refine ⟨⟨answered.requestClose, some ⟨bytes, endpoint.replyTo source⟩⟩, ?_, rfl,
      congrArg some read, told_requestClose _⟩
    change c.handle peers refusal source .endConnection _ = _
    rw [handle, replied]
  | tunnelingRequest header telegram =>
    obtain ⟨bytes, read, handled⟩ := handle_acceptTelegram sends c peers source header telegram
    obtain ⟨statistics, connection⟩ :=
      (c.sent (Frame.ofBody (.tunnelingAck ⟨header.channel, header.sequence, statusOk⟩))
        bytes.length).accepted_keeps header telegram
    refine ⟨_, handled, ?_, congrArg some read, ?_⟩
    · exact (congrArg Statistics.errors statistics).trans rfl
    · exact (congrArg Connection.told connection).trans (List.append_nil _).symm
  | routingIndication telegram =>
    obtain ⟨statistics, connection⟩ := c.noteValue_keeps telegram
    refine ⟨_, rfl, congrArg Statistics.errors statistics, rfl, ?_⟩
    exact (congrArg Connection.told connection).trans (List.append_nil _).symm
  | _ => exact ⟨_, rfl, rfl, rfl, (List.append_nil _).symm⟩

/-! ## A received datagram -/

variable (c : Context) (role : Role) (peers : Peers) (source : Endpoint) {bytes : Bytes}

theorem refuses_dispatch_of_error (refusal : Refusal) {f : Fault}
    (unread : Frame.decode bytes = .error f) :
    c.Refuses (c.dispatch role peers refusal source bytes) := by
  rw [dispatch, unread]
  exact ⟨rfl, rfl, rfl, rfl, rfl⟩

theorem refuses_dispatch_of_foreign (refusal : Refusal) {frame : Frame}
    (read : Frame.decode bytes = .ok frame)
    (foreign : frame.body.Foreign c.connection.channelId) :
    c.Refuses (c.dispatch role peers refusal source bytes) := by
  have refused : verifyChannel (c.received frame bytes.length).connection.channelId frame.body =
      .error (.connection (.wrongChannelId frame.body)) := verifyChannel_of_foreign foreign
  rw [dispatch, read]
  dsimp only
  rw [handleFrame, refused]
  exact ⟨rfl, rfl, rfl, rfl, rfl⟩

section

variable {c role peers source} {frame : Frame} (read : Frame.decode bytes = .ok frame)
  (own : ¬ frame.body.Foreign c.connection.channelId)

include read own

theorem dispatch_of_unhandled (refusal : Refusal)
    (unhandled : role.handling frame.body.service = none) :
    c.dispatch role peers refusal source bytes = ⟨c.received frame bytes.length, none⟩ := by
  have verified : verifyChannel (c.received frame bytes.length).connection.channelId frame.body =
      .ok () := verifyChannel_of_not_foreign own
  simp only [dispatch, read, handleFrame, verified, unhandled]

theorem dispatch_of_handled {handling : Handling} {h : Handled}
    (known : role.handling frame.body.service = some handling)
    (handled : (c.received frame bytes.length).handle peers refusal source handling frame.body =
      (.ok (), h)) :
    c.dispatch role peers refusal source bytes = h := by
  have verified : verifyChannel (c.received frame bytes.length).connection.channelId frame.body =
      .ok () := verifyChannel_of_not_foreign own
  simp only [dispatch, read, handleFrame, verified, known, handled]

theorem answers_dispatch (sends : ∀ d, refusal d = none) {handling : Handling}
    (known : role.handling frame.body.service = some handling) :
    c.Answers frame.body (c.dispatch role peers refusal source bytes) := by
  obtain ⟨h, handled, answers⟩ :=
    answers_handle sends (c.received frame bytes.length) peers source known
  rw [dispatch_of_handled read own known handled]
  exact ⟨answers.errors, answers.reply, answers.told⟩

end

/-- While the transport takes what it is given: a datagram that cannot be read, or belongs to
another channel, has no effect but one more error. Any other counts no error. One datagram is sent
in reply exactly if the role handles the frame and it is one of three requests, and it is the
response that goes with the request, of the same channel, with the same sequence number and with
good status. Only a disconnect request asks for the connection to be closed. -/
theorem reaction_of_dispatch (sends : ∀ d, refusal d = none) (bytes : Bytes) :
    let h := c.dispatch role peers refusal source bytes
    (∀ f, Frame.decode bytes = .error f → c.Refuses h) ∧
    ∀ frame, Frame.decode bytes = .ok frame →
      let b := frame.body
      (b.Foreign c.connection.channelId → c.Refuses h) ∧
      (¬ b.Foreign c.connection.channelId →
        h.context.statistics.errors = c.statistics.errors ∧
        (h.reply.isSome = true ↔ (role.handling b.service).isSome = true ∧
          (b.service = .connectionStateRequest ∨ b.service = .disconnectRequest ∨
            b.service = .tunnelingRequest)) ∧
        (∀ d, h.reply = some d → ∃ r, d.body? = some r ∧ b.service.response = some r.service ∧
          r.channelId = b.channelId ∧ r.sequence = b.sequence ∧ r.status = some statusOk) ∧
        h.context.connection.told = c.connection.told ++
          if (role.handling b.service).isSome = true ∧ b.service = .disconnectRequest then
            c.connection.listener.toList
          else []) := by
  intro h
  refine ⟨fun f unread => c.refuses_dispatch_of_error role peers source refusal unread,
    fun frame read => ⟨c.refuses_dispatch_of_foreign role peers source refusal read, fun own => ?_⟩⟩
  cases known : role.handling frame.body.service with
  | none =>
    have dropped : h = _ :=
      dispatch_of_unhandled read own refusal known
    simp only [dropped]
    exact ⟨rfl, by simp, nofun, by simp [received, notify]⟩
  | some handling =>
    have answers : c.Answers frame.body h := answers_dispatch read own sends known
    have replied : h.reply.isSome = frame.body.answer?.isSome := by
      simpa using congrArg Option.isSome answers.reply
    refine ⟨answers.errors, ?_, fun d sent => ?_, ?_⟩
    · rw [replied, Body.isSome_answer?]
      simp
    · have answered : frame.body.answer?.map some = some d.body? := by
        rw [← answers.reply, sent]
        rfl
      obtain ⟨r, answer, same⟩ := Option.map_eq_some_iff.mp answered
      exact ⟨r, same.symm, Body.of_answer? answer⟩
    · simpa using answers.told

/-- The gateway closes channel 5, which is open. -/
theorem reaction_of_dispatch_disconnect :
    let gateway : Endpoint := ⟨⟨192, 168, 1, 10⟩, 3671⟩
    let c := (Context.new .nobody).withConnection fun x =>
      { x with channelId := some 5, listener := some "session" }
    let bytes : Bytes := [6, 0x10, 2, 9, 0, 16, 5, 0, 8, 1, 192, 168, 1, 10, 0x0E, 0x57]
    let h := c.dispatch .control ⟨gateway, none⟩ (fun _ => none) gateway bytes
    (∀ d : Datagram, (fun _ => none : Refusal) d = none) ∧
    ∃ frame, Frame.decode bytes = .ok frame ∧ ¬ frame.body.Foreign c.connection.channelId ∧
      h.context.statistics.errors = c.statistics.errors ∧
      (∀ d, h.reply = some d → ∃ r, d.body? = some r ∧
        frame.body.service.response = some r.service ∧ r.channelId = frame.body.channelId ∧
        r.sequence = frame.body.sequence ∧ r.status = some statusOk) ∧
      h.context.connection.told = ["session"] := by
  intro gateway c bytes h
  have sends : ∀ d : Datagram, (fun _ => none : Refusal) d = none := fun _ => rfl
  have own : ¬ (Body.disconnectRequest 5 gateway).Foreign c.connection.channelId := by
    rintro ⟨-, id, channel, other⟩
    exact other channel.symm
  obtain ⟨errors, -, reply, told⟩ := ((reaction_of_dispatch c .control ⟨gateway, none⟩ gateway sends
    bytes).2 ⟨⟨.disconnectRequest, 16⟩, .disconnectRequest 5 gateway⟩ rfl).2 own
  exact ⟨sends, _, rfl, own, errors, reply, told⟩

end Context
end KnxIp
