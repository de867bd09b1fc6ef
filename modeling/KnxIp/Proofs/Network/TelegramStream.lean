/-
  A stream of telegrams that comes through the tunnel.

  Each request that the gateway sends through the tunnel is acknowledged, and its telegram is noted
  unless its sequence number is that of the request immediately before it (`receive_tunneled`). So
  of a whole stream every request has its acknowledgement, in order, and the known values are those
  that the requests which are no repetitions leave behind (`arriveAll_tunneled`).

  Main statement: `acknowledged_and_noted`, for a stream that begins after the sequence numbers were
  forgotten, so that its first request always counts.
-/
import KnxIp.Proofs.Channel.Reaction
import KnxIp.Network.Basic

namespace KnxIp

/-- The known values after a telegram: a group value that is written or responded is the value of
the destination, unless the telegram confirms that the bus did not take it. -/
def StatusPool.learn (s : StatusPool) (t : Telegram) : StatusPool :=
  if t.messageCode = .confirmation ∧ t.control1.hasError = true then s
  else match t.apci with
    | some .groupValueWrite => s.update t.destination .groupValueWrite t.data.val t.source
    | some .groupValueResponse => s.update t.destination .groupValueResponse t.data.val t.source
    | _ => s

theorem Context.status_noteValue (c : Context) (t : Telegram) :
    (c.noteValue t).status = c.status.learn t := by
  unfold noteValue StatusPool.learn
  split
  · rfl
  · dsimp only [StatusPool.updateFrom, StatusPool.note]
    cases t.apci with
    | none => rfl
    | some a => cases a <;> rfl

/-- A request that comes through the tunnel: where it comes from, its octets, and what is read from
them. -/
structure Tunneled where
  source : Endpoint
  bytes : Bytes
  header : TunnelHeader
  telegram : Telegram
  read : Frame.bodyIn? bytes = some (.tunnelingRequest header telegram)

namespace Tunneled

/-- The request arrives at a local endpoint. -/
def arrival (x : Tunneled) (address : Endpoint) : Arrival := ⟨address, x.source, x.bytes⟩

/-- The acknowledgement: of the same channel, with the same sequence number and good status. -/
def ack (x : Tunneled) : Body := .tunnelingAck ⟨x.header.channel, x.header.sequence, statusOk⟩

/-- The requests whose sequence number is not that of the request immediately before them in the
stream; `previous` is the number before the first one. -/
def noRepetitions (previous : Option UInt8) (stream : List Tunneled) : List Tunneled :=
  ((stream.zip (previous :: stream.map fun x => some x.header.sequence)).filter
    fun (x, before) => before ≠ some x.header.sequence).map (·.1)

theorem noRepetitions_cons (previous : Option UInt8) (x : Tunneled) (stream : List Tunneled) :
    noRepetitions previous (x :: stream) =
      if previous = some x.header.sequence then noRepetitions (some x.header.sequence) stream
      else x :: noRepetitions (some x.header.sequence) stream := by
  by_cases again : previous = some x.header.sequence
  · simp [noRepetitions, again]
  · simp [noRepetitions, again]

/-- A request fits into the receive buffer. -/
theorem take_maxFrameSize (x : Tunneled) : x.bytes.take maxFrameSize = x.bytes := by
  obtain ⟨frame, decoded, body⟩ := Frame.bodyIn?_eq_some_iff.mp x.read
  obtain ⟨-, -, -, length⟩ := Frame.decode_eq_ok_iff.mp decoded
  have telegram := Frame.telegram_le x.telegram
  rw [body, Body.encodedLength, List.length_drop, Header.size] at length
  refine List.take_of_length_le ?_
  rw [maxFrameSize]
  omega

end Tunneled

/-- What a socket for data does with a request that comes through the tunnel of its channel. -/
theorem Context.dispatch_tunneled {refusal : Refusal} (sends : ∀ d, refusal d = none) (c : Context)
    {role : Role} (data : role = .data ∨ role = .shared) (peers : Peers) (x : Tunneled)
    (own : c.connection.channelId = some x.header.channel) :
    let h := c.dispatch role peers refusal x.source x.bytes
    (∃ d, h.reply = some d ∧ d.body? = some x.ack ∧ d.destination = peers.ofChannel .data) ∧
    h.context.connection = { c.connection with lastSequence := some x.header.sequence } ∧
    h.context.status =
      if c.connection.lastSequence = some x.header.sequence then c.status
      else c.status.learn x.telegram := by
  intro h
  obtain ⟨frame, decoded, body⟩ := Frame.bodyIn?_eq_some_iff.mp x.read
  have notForeign : ¬ frame.body.Foreign c.connection.channelId := by
    rintro ⟨-, id, channel, other⟩
    rw [body] at channel
    exact other (channel.symm.trans own.symm)
  have known : role.handling frame.body.service = some .acceptTelegram := by
    rw [body]
    obtain rfl | rfl := data <;> rfl
  let received := c.received frame x.bytes.length
  obtain ⟨octets, read, handled⟩ :=
    handle_acceptTelegram sends received peers x.source x.header x.telegram
  have ended : h = _ := dispatch_of_handled decoded notForeign known (body ▸ handled)
  rw [ended]
  refine ⟨⟨_, rfl, read, rfl⟩, (accepted_keeps _ x.header x.telegram).2, ?_⟩
  rw [status_accepted, status_noteValue]
  rfl

namespace World

variable {n : Network} {s : Socket}

theorem sent_log (w : World) (sender : Sender) (socket : Endpoint) (d : Datagram) :
    (w.log sender socket d false).sent = w.sent ++ [d] := by
  have entered : (w.log sender socket d false).attempts =
      w.attempts ++ [⟨sender, socket, d, false⟩] := List.filterMap_append
  rw [sent, entered, List.filter_append, List.map_append]
  rfl

theorem sent_received (w : World) (r : Receipt) : (w.note (.received r)).sent = w.sent := by
  have entered : (w.note (.received r)).attempts = w.attempts ++ [] := List.filterMap_append
  rw [sent, entered, List.append_nil]
  rfl

/-- One request that comes through the tunnel. -/
theorem receive_tunneled
    (sends : ∀ earlier d, (n.react earlier .receiver s.address d).refusal = none)
    (data : s.role = .data ∨ s.role = .shared) (w : World) (x : Tunneled)
    (own : w.context.connection.channelId = some x.header.channel) :
    let v := w.receive n s (.datagram x.source x.bytes)
    v.sockets = w.sockets ∧
    (∃ d : Datagram, v.sent = w.sent ++ [d] ∧ d.body? = some x.ack ∧
      d.destination = s.peers.ofChannel .data) ∧
    v.context.connection =
      { w.context.connection with lastSequence := some x.header.sequence } ∧
    v.context.status =
      if w.context.connection.lastSequence = some x.header.sequence then w.context.status
      else w.context.status.learn x.telegram := by
  let noted := w.note (.received ⟨s.role, s.address, x.source, x.bytes⟩)
  let refusal : Refusal := fun d => (n.react noted.attempts .receiver s.address d).refusal
  have taken : ∀ d, refusal d = none := fun d => sends _ d
  obtain ⟨⟨d, replied, ack, peer⟩, connection, status⟩ :=
    w.context.dispatch_tunneled taken data s.peers x own
  let h := w.context.dispatch s.role s.peers refusal x.source x.bytes
  have received : w.receive n s (.datagram x.source x.bytes) =
      { noted with context := h.context }.log .receiver s.address d false := by
    have ends := World.receive_cases n w s x.source x.bytes
    rw [x.take_maxFrameSize] at ends
    obtain ⟨silent, -⟩ | ⟨d', answer, ended⟩ := ends
    · cases replied.symm.trans silent
    · cases replied.symm.trans answer
      rw [ended]
      show { noted with context := h.context }.log .receiver s.address d (refusal d).isSome = _
      rw [taken]
      rfl
  rw [received]
  refine ⟨rfl, ⟨d, ?_, ack, peer⟩, connection, status⟩
  rw [sent_log]
  exact congrArg (· ++ [d]) (w.sent_received _)

/-- By induction on the stream; `previous` is the sequence number before its first request. -/
theorem arriveAll_tunneled
    (sends : ∀ earlier d, (n.react earlier .receiver s.address d).refusal = none)
    (data : s.role = .data ∨ s.role = .shared) (isOpen : s.isOpen = true)
    (running : s.running = true) {id : UInt8} (w : World) (stream : List Tunneled)
    (found : w.socket? s.address = some s) (channel : w.context.connection.channelId = some id)
    (own : ∀ x ∈ stream, x.header.channel = id) :
    let v := w.arriveAll n (stream.map (·.arrival s.address))
    (∃ acks, v.sent = w.sent ++ acks ∧ acks.map Datagram.body? = stream.map (some ·.ack) ∧
      ∀ d ∈ acks, d.destination = s.peers.ofChannel .data) ∧
    v.context.status =
      ((Tunneled.noRepetitions w.context.connection.lastSequence stream).map (·.telegram)).foldl
        StatusPool.learn w.context.status := by
  induction stream generalizing w with
  | nil => exact ⟨⟨[], (List.append_nil _).symm, rfl, nofun⟩, rfl⟩
  | cons x stream ih =>
    obtain ⟨here, later⟩ := List.forall_mem_cons.mp own
    let v := w.receive n s (.datagram x.source x.bytes)
    obtain ⟨sockets, ⟨d, sent, ack, peer⟩, connection, status⟩ :=
      receive_tunneled sends data w x (here ▸ channel)
    have arrived : w.arrive n s.address (.datagram x.source x.bytes) = v := by
      simp only [arrive, found, isOpen, running, Bool.not_true, Bool.false_eq_true, if_false,
        if_true]
      rfl
    obtain ⟨⟨acks, rest, bodies, peers⟩, pool⟩ := ih v
      (by rw [socket?, sockets]; exact found) (by rw [connection]; exact channel) later
    have next : w.arriveAll n ((x :: stream).map (·.arrival s.address)) =
        v.arriveAll n (stream.map (·.arrival s.address)) := by
      rw [← arrived]
      rfl
    rw [next]
    refine ⟨⟨d :: acks, ?_, ?_, ?_⟩, ?_⟩
    · rw [rest, sent, List.append_assoc]
      rfl
    · rw [List.map_cons, List.map_cons, ack, bodies]
    · exact List.forall_mem_cons.mpr ⟨peer, peers⟩
    · rw [pool, connection, status, Tunneled.noRepetitions_cons]
      by_cases again : w.context.connection.lastSequence = some x.header.sequence
      · rw [if_pos again, if_pos again]
      · rw [if_neg again, if_neg again]
        rfl

/-- A stream of requests for the own channel comes to a running socket for data, after the sequence
numbers were forgotten, and the network takes what the socket sends. Then one acknowledgement for
each request is sent, in order and to the data peer, of the same channel, with the same sequence
number and good status; and the known values are those that come of the telegrams, in order, of the
requests whose sequence number differs from that of the request immediately before. -/
theorem acknowledged_and_noted
    (sends : ∀ earlier d, (n.react earlier .receiver s.address d).refusal = none)
    (data : s.role = .data ∨ s.role = .shared) (isOpen : s.isOpen = true)
    (running : s.running = true) {id : UInt8} (w : World) (stream : List Tunneled)
    (found : w.socket? s.address = some s) (channel : w.context.connection.channelId = some id)
    (reset : w.context.connection.lastSequence = none)
    (own : ∀ x ∈ stream, x.header.channel = id) :
    let v := w.arriveAll n (stream.map (·.arrival s.address))
    (∃ acks, v.sent = w.sent ++ acks ∧
      acks.map Datagram.body? =
        stream.map (fun x => some (.tunnelingAck ⟨id, x.header.sequence, statusOk⟩)) ∧
      ∀ d ∈ acks, d.destination = s.peers.ofChannel .data) ∧
    v.context.status =
      ((Tunneled.noRepetitions none stream).map (·.telegram)).foldl
        StatusPool.learn w.context.status := by
  intro v
  obtain ⟨⟨acks, sent, bodies, peers⟩, status⟩ :=
    arriveAll_tunneled sends data isOpen running w stream found channel own
  refine ⟨⟨acks, sent, bodies.trans (List.map_congr_left fun x hx => ?_), peers⟩, reset ▸ status⟩
  rw [Tunneled.ack, own x hx]

/-- A datagram that writes 1 to the group 1/2/3, through the tunnel of channel 5. -/
def tunneledWrite (sequence : UInt8) : Bytes :=
  [6, 0x10, 4, 0x20, 0, 21, 4, 5, sequence, 0, 0x29, 0, 0xBC, 0xE0, 0x11, 0x05, 0x0A, 0x03, 1, 0,
    0x81]

/-- Three requests of which the second repeats the first, and the numbers begin anew after it. -/
theorem acknowledged_and_noted_repetition :
    let gateway : Endpoint := ⟨⟨192, 168, 1, 10⟩, 3671⟩
    let s : Socket := { Socket.new .data ⟨.loopback, 50001⟩ gateway with running := true }
    let context := (Context.new .nobody).withConnection fun c => { c with channelId := some 5 }
    let w : World := ⟨context, [s], [], 1⟩
    (∀ earlier d, (Network.quiet.react earlier .receiver s.address d).refusal = none) ∧
    (s.role = .data ∨ s.role = .shared) ∧ s.isOpen = true ∧ s.running = true ∧
    w.socket? s.address = some s ∧ w.context.connection.channelId = some 5 ∧
    w.context.connection.lastSequence = none ∧
    ∃ stream : List Tunneled, stream.map (·.bytes) = [255, 255, 0].map tunneledWrite ∧
      (∀ x ∈ stream, x.header.channel = 5) ∧
      (Tunneled.noRepetitions none stream).map (·.bytes) = [255, 0].map tunneledWrite ∧
      let v := w.arriveAll .quiet (stream.map (·.arrival s.address))
      (∃ acks, v.sent = w.sent ++ acks ∧
        acks.map Datagram.body? =
          stream.map (fun x => some (.tunnelingAck ⟨5, x.header.sequence, statusOk⟩)) ∧
        ∀ d ∈ acks, d.destination = s.peers.ofChannel .data) ∧
      v.context.status =
        ((Tunneled.noRepetitions none stream).map (·.telegram)).foldl
          StatusPool.learn w.context.status := by
  intro gateway s context w
  let first : Tunneled := ⟨gateway, tunneledWrite 255, ⟨5, 255, 0⟩, _, rfl⟩
  let last : Tunneled := ⟨gateway, tunneledWrite 0, ⟨5, 0, 0⟩, _, rfl⟩
  have own : ∀ x ∈ [first, first, last], x.header.channel = 5 := by simp [first, last]
  refine ⟨fun _ _ => rfl, .inl rfl, rfl, rfl, rfl, rfl, rfl, [first, first, last], rfl, own, rfl,
    ?_⟩
  exact acknowledged_and_noted (fun _ _ => rfl) (.inl rfl) rfl rfl w _ rfl rfl rfl own

end World
end KnxIp
