/-
  Two clients that the network cannot tell apart.

  One client has a past, and the other one begins. They are alike if they have the same sockets, the
  same exchanges and the same state of the connection, and if the journal of the first one is that
  of the second one behind its past. Towards the second one the network behaves as it does towards
  the first one after its past (`Network.since`). Then whatever both do, they do alike: they hand
  over the same datagrams, learn the same results and stay alike.

  What they know of values may differ, and so may what was counted and shown to the observers.
  But the known values of both change by the same operations.
-/
import KnxIp.Discovery
import KnxIp.Proofs.Network.Hearing

namespace KnxIp

/-- The network as it behaves towards a client that begins, if it behaves as it does towards a
client with this past. -/
def Network.since (n : Network) (past : World) : Network :=
  { n with
    react := fun earlier => n.react (past.attempts ++ earlier)
    freePort := fun opened => n.freePort (past.opened + opened)
    openRefusal := fun opened => n.openRefusal (past.opened + opened)
    watchRefusal := fun opened => n.watchRefusal (past.opened + opened) }

/-! ## Contexts -/

namespace Context

/-- Two contexts that treat every datagram alike. Their known values have come about from these two
pools by the same operations. -/
structure Alike (p q : StatusPool) (c d : Context) : Prop where
  correlator : c.correlator = d.correlator
  channelId : c.connection.channelId = d.connection.channelId
  lastSequence : c.connection.lastSequence = d.connection.lastSequence
  status : ∃ operations, c.status = p.run operations ∧ d.status = q.run operations

end Context

/-- The same is sent in reply, and the contexts are alike. -/
structure Handled.Alike (p q : StatusPool) (x y : Handled) : Prop where
  context : Context.Alike p q x.context y.context
  reply : x.reply = y.reply

namespace Context

variable {p q : StatusPool} {c d : Context}

namespace Alike

/-- What is counted and shown to the observers does not matter. -/
theorem reported (h : Alike p q c d) (f : Failure) : Alike p q (c.report f) (d.report f) :=
  ⟨h.correlator, h.channelId, h.lastSequence, h.status⟩

theorem counted (h : Alike p q c d) (f : Frame) (size : Nat) :
    Alike p q (c.received f size) (d.received f size) :=
  ⟨h.correlator, h.channelId, h.lastSequence, h.status⟩

theorem sent (h : Alike p q c d) (f : Frame) (size : Nat) :
    Alike p q (c.sent f size) (d.sent f size) :=
  ⟨h.correlator, h.channelId, h.lastSequence, h.status⟩

theorem withCorrelator (h : Alike p q c d) {x y : Correlator} (same : x = y) :
    Alike p q { c with correlator := x } { d with correlator := y } :=
  ⟨same, h.channelId, h.lastSequence, h.status⟩

theorem withConnection (h : Alike p q c d) {x y : Connection}
    (channelId : x.channelId = y.channelId) (lastSequence : x.lastSequence = y.lastSequence) :
    Alike p q { c with connection := x } { d with connection := y } :=
  ⟨h.correlator, channelId, lastSequence, h.status⟩

/-- Who is told does not matter either. -/
theorem requestClose (h : Alike p q c d) : Alike p q c.requestClose d.requestClose := by
  have keeps : ∀ x : Connection,
      x.requestClose.channelId = x.channelId ∧ x.requestClose.lastSequence = x.lastSequence := by
    intro x
    unfold Connection.requestClose
    split <;> exact ⟨rfl, rfl⟩
  refine h.withConnection ?_ ?_
  · rw [(keeps _).1, (keeps _).1, h.channelId]
  · rw [(keeps _).2, (keeps _).2, h.lastSequence]

theorem noteValue (h : Alike p q c d) (t : Telegram) :
    Alike p q (c.noteValue t) (d.noteValue t) := by
  unfold Context.noteValue
  split
  · exact h
  · obtain ⟨operations, first, second⟩ := h.status
    refine ⟨h.correlator, h.channelId, h.lastSequence, operations ++ [.note t], ?_, ?_⟩
    · rw [StatusPool.run_append, ← first]
      rfl
    · rw [StatusPool.run_append, ← second]
      rfl

theorem accepted (h : Alike p q c d) (header : TunnelHeader) (t : Telegram) :
    Alike p q (c.accepted header t) (d.accepted header t) := by
  unfold Context.accepted Connection.accept
  rw [← h.lastSequence]
  have noted := h.withConnection (x := { c.connection with lastSequence := some header.sequence })
    (y := { d.connection with lastSequence := some header.sequence }) h.channelId rfl
  dsimp only
  split
  · exact noted.noteValue t
  · exact noted

theorem reply (h : Alike p q c d) (refusal : Refusal) (b : Body) (destination : Endpoint) :
    (c.reply refusal b destination).1 = (d.reply refusal b destination).1 ∧
      Handled.Alike p q (c.reply refusal b destination).2 (d.reply refusal b destination).2 := by
  unfold Context.reply
  dsimp only
  split
  · exact ⟨rfl, h, rfl⟩
  · split
    · exact ⟨rfl, h, rfl⟩
    · exact ⟨rfl, h.sent .., rfl⟩

/-- One case for each way to handle a body. -/
theorem handle (h : Alike p q c d) (peers : Peers) (refusal : Refusal) (source : Endpoint)
    (handling : Handling) (b : Body) :
    (c.handle peers refusal source handling b).1 = (d.handle peers refusal source handling b).1 ∧
      Handled.Alike p q (c.handle peers refusal source handling b).2
        (d.handle peers refusal source handling b).2 := by
  cases handling with
  | record => exact ⟨rfl, h.withCorrelator (congrArg (·.record b) h.correlator), rfl⟩
  | ignore => cases b <;> exact ⟨rfl, h, rfl⟩
  | confirmState =>
    cases b with
    | connectionStateRequest id endpoint => exact h.reply ..
    | _ => exact ⟨rfl, h, rfl⟩
  | endConnection =>
    cases b with
    | disconnectRequest id endpoint =>
      have noted := h.withCorrelator
        (congrArg (·.registerInbound (.disconnectRequest id endpoint)) h.correlator)
      obtain ⟨result, handled⟩ := noted.reply refusal
        (.disconnectResponse id statusOk) (endpoint.replyTo source)
      exact ⟨result, handled.context.requestClose, handled.reply⟩
    | _ => exact ⟨rfl, h, rfl⟩
  | acceptTelegram =>
    cases b with
    | tunnelingRequest header telegram =>
      obtain ⟨result, handled⟩ := h.reply refusal
        (.tunnelingAck ⟨header.channel, header.sequence, statusOk⟩) (peers.ofChannel .data)
      simp only [Context.handle]
      generalize c.reply refusal _ _ = x at result handled ⊢
      generalize d.reply refusal _ _ = y at result handled ⊢
      obtain ⟨r, x⟩ := x
      obtain ⟨r', y⟩ := y
      obtain rfl : r = r' := result
      cases r with
      | error f => exact ⟨rfl, handled⟩
      | ok _ => exact ⟨rfl, handled.context.accepted header telegram, handled.reply⟩
    | _ => exact ⟨rfl, h, rfl⟩
  | noteValue =>
    cases b with
    | routingIndication telegram => exact ⟨rfl, h.noteValue telegram, rfl⟩
    | _ => exact ⟨rfl, h, rfl⟩

theorem handleFrame (h : Alike p q c d) (role : Role) (peers : Peers) (refusal : Refusal)
    (source : Endpoint) (b : Body) :
    Handled.Alike p q (c.handleFrame role peers refusal source b)
      (d.handleFrame role peers refusal source b) := by
  unfold Context.handleFrame
  rw [← h.channelId]
  split
  · exact ⟨h.reported _, rfl⟩
  · split
    · exact ⟨h, rfl⟩
    · rename_i handling _
      obtain ⟨result, handled⟩ := h.handle peers refusal source handling b
      generalize c.handle peers refusal source handling b = x at result handled ⊢
      generalize d.handle peers refusal source handling b = y at result handled ⊢
      obtain ⟨r, x⟩ := x
      obtain ⟨r', y⟩ := y
      obtain rfl : r = r' := result
      cases r with
      | error f => exact ⟨handled.context.reported f, handled.reply⟩
      | ok _ => exact handled

theorem dispatch (h : Alike p q c d) (role : Role) (peers : Peers) (refusal : Refusal)
    (source : Endpoint) (bytes : Bytes) :
    Handled.Alike p q (c.dispatch role peers refusal source bytes)
      (d.dispatch role peers refusal source bytes) := by
  unfold Context.dispatch
  split
  · exact ⟨h.reported _, rfl⟩
  · exact (h.counted ..).handleFrame ..

end Alike
end Context

/-! ## Worlds -/

namespace World

/-- A world with a past, and one that begins, which have gone on alike. -/
structure Alike (past : World) (q : StatusPool) (w v : World) : Prop where
  context : Context.Alike past.context.status q w.context v.context
  sockets : w.sockets = v.sockets
  journal : w.journal = past.journal ++ v.journal
  opened : w.opened = past.opened + v.opened

/-- Two steps end with the same result, and in worlds that are alike. -/
structure Matches {α : Type} (past : World) (q : StatusPool) (x y : α × World) : Prop where
  result : x.1 = y.1
  world : Alike past q x.2 y.2

variable {past : World} {q : StatusPool} {w v : World} {α : Type}

/-- What goes on from two steps that match. -/
@[elab_as_elim]
theorem Matches.elim {motive : α × World → α × World → Prop} {x y : α × World}
    (h : Matches past q x y) (next : ∀ a w v, Alike past q w v → motive (a, w) (a, v)) :
    motive x y := by
  obtain ⟨a, w⟩ := x
  obtain ⟨a', v⟩ := y
  obtain ⟨rfl : a = a', world⟩ := h
  exact next a w v world

namespace Alike

theorem withContext (h : Alike past q w v) {c d : Context}
    (context : Context.Alike past.context.status q c d) :
    Alike past q { w with context := c } { v with context := d } :=
  ⟨context, h.sockets, h.journal, h.opened⟩

theorem attempts (h : Alike past q w v) : w.attempts = past.attempts ++ v.attempts := by
  simp only [World.attempts, h.journal, List.filterMap_append]

/-- The network cannot tell them apart. -/
theorem react (h : Alike past q w v) (n : Network) :
    (n.since past).react v.attempts = n.react w.attempts := by
  rw [h.attempts]
  rfl

theorem note (h : Alike past q w v) (x : Happening) : Alike past q (w.note x) (v.note x) := by
  refine ⟨h.context, h.sockets, ?_, h.opened⟩
  show w.journal ++ [x] = past.journal ++ (v.journal ++ [x])
  rw [h.journal, List.append_assoc]

theorem socket? (h : Alike past q w v) (address : Endpoint) :
    w.socket? address = v.socket? address := by
  rw [World.socket?, h.sockets]
  rfl

theorem setSocket (h : Alike past q w v) (address : Endpoint) (f : Socket → Socket) :
    Alike past q (w.setSocket address f) (v.setSocket address f) :=
  ⟨h.context, congrArg (List.map _) h.sockets, h.journal, h.opened⟩

theorem drop (h : Alike past q w v) (address : Endpoint) :
    Alike past q (w.drop address) (v.drop address) :=
  ⟨h.context, congrArg (List.filter _) h.sockets, h.journal, h.opened⟩

variable (n : Network)

theorem receive (h : Alike past q w v) (s : Socket) (x : Waiting) :
    Alike past q (w.receive n s x) (v.receive (n.since past) s x) := by
  cases x with
  | failure fault => exact h.withContext (h.context.reported _)
  | datagram source bytes =>
    have noted := h.note (.received ⟨s.role, s.address, source, bytes.take maxFrameSize⟩)
    simp only [World.receive]
    rw [noted.react n]
    generalize n.react _ = reaction
    obtain ⟨context, reply⟩ := noted.context.dispatch s.role s.peers
      (fun d => (reaction .receiver s.address d).refusal) source (bytes.take maxFrameSize)
    rw [← reply]
    split
    · exact noted.withContext context
    · exact (noted.withContext context).note _

theorem arrive (h : Alike past q w v) (address : Endpoint) (x : Waiting) :
    Alike past q (w.arrive n address x) (v.arrive (n.since past) address x) := by
  unfold World.arrive
  rw [← h.socket? address]
  split
  · exact h
  · split
    · exact h
    · split
      · exact h.receive n ..
      · exact h.setSocket ..

/-- By induction on what arrives. -/
theorem arriveAll (h : Alike past q w v) (arrivals : List Arrival) :
    Alike past q (w.arriveAll n arrivals) (v.arriveAll (n.since past) arrivals) := by
  induction arrivals generalizing w v with
  | nil => exact h
  | cons a arrivals ih => exact ih (h.arrive n a.socket (.datagram a.source a.bytes))

theorem sendTo (h : Alike past q w v) (address : Endpoint) (b : Body) (destination : Endpoint) :
    Matches past q (w.sendTo n address b destination)
      (v.sendTo (n.since past) address b destination) := by
  unfold World.sendTo
  dsimp only
  split
  · exact ⟨rfl, h⟩
  · rename_i bytes _
    rw [h.react n]
    split
    · exact ⟨rfl, h.note _⟩
    · have arrived := (h.note (.handed ⟨.caller, address, ⟨bytes, destination⟩, false⟩)).arriveAll n
        (n.react w.attempts .caller address ⟨bytes, destination⟩).arrivals
      exact ⟨rfl, arrived.withContext (arrived.context.sent ..)⟩

theorem send (h : Alike past q w v) (s : Socket) (b : Body) :
    Matches past q (w.send n s b) (v.send (n.since past) s b) := h.sendTo n ..

theorem request (h : Alike past q w v) (s : Socket) (b : Body) :
    Matches past q (w.request n s b) (v.request (n.since past) s b) := by
  unfold World.request
  rw [← h.context.correlator]
  split
  · exact ⟨rfl, h⟩
  · rename_i key correlator _
    unfold World.withContext
    refine ((h.withContext (h.context.withCorrelator (x := correlator) rfl)).send n s b).elim
      fun r w v world => ?_
    cases r with
    | error f => exact ⟨rfl, world⟩
    | ok _ =>
      exact ⟨congrArg (fun c => Except.ok (c.response? key)) world.context.correlator, world⟩

/-- By induction on the requests that are left. -/
theorem repeatRequest (h : Alike past q w v) (s : Socket) (b : Body) (accept : Body → Option α)
    (budget : Nat) (last : Option Body) :
    Matches past q (World.repeatRequest n s b accept budget last w)
      (World.repeatRequest (n.since past) s b accept budget last v) := by
  induction budget generalizing w v last with
  | zero => exact ⟨rfl, h⟩
  | succ budget ih =>
    unfold World.repeatRequest
    refine (h.request n s b).elim fun r w v world => ?_
    cases r with
    | error f => exact ⟨rfl, world⟩
    | ok found =>
      cases found with
      | none => exact ih world last
      | some response =>
        dsimp only
        cases accept response with
        | some a => exact ⟨rfl, world⟩
        | none => exact ih world (some response)

theorem bind (h : Alike past q w v) (role : Role) (here peer : Endpoint) :
    Matches past q (w.bind n role here peer) (v.bind (n.since past) role here peer) := by
  have refusal : (n.since past).openRefusal v.opened = n.openRefusal w.opened := by
    rw [h.opened]
    rfl
  have port : (n.since past).freePort v.opened = n.freePort w.opened := by
    rw [h.opened]
    rfl
  unfold World.bind
  rw [refusal, port]
  split
  · exact ⟨rfl, h⟩
  · refine ⟨rfl, h.context, congrArg (· ++ [_]) h.sockets, h.journal, ?_⟩
    show w.opened + 1 = past.opened + (v.opened + 1)
    rw [h.opened, Nat.add_assoc]

/-- A procedure with a socket of its own. -/
theorem withSocket (h : Alike past q w v) (settings : Settings) (role : Role)
    (socket : SocketSettings) (peer : Endpoint) {f g : Socket → World → Except Failure α × World}
    (procedure : ∀ s {w v}, Alike past q w v → Matches past q (f s w) (g s v)) :
    Matches past q (w.withSocket n settings role socket peer f)
      (v.withSocket (n.since past) settings role socket peer g) := by
  unfold World.withSocket
  rw [show settings.interfaceTo (n.since past) peer = settings.interfaceTo n peer from rfl]
  refine (h.bind n role ⟨settings.interfaceTo n peer, socket.port⟩ peer).elim fun r w v world => ?_
  cases r with
  | error f => exact ⟨rfl, world⟩
  | ok s =>
    obtain ⟨same, after⟩ := procedure s world
    exact ⟨same, after.drop s.address⟩

theorem discover (h : Alike past q w v) (settings : Settings) :
    Matches past q (World.discover n settings w) (World.discover (n.since past) settings v) := by
  refine h.withSocket n _ _ _ _ fun s w v h => ?_
  dsimp only
  refine (h.repeatRequest n s (.searchRequest (settings.announced s)) FoundGateway.ofBody
    settings.retries.discovery.toNat none).elim fun r w v world => ?_
  match r with
  | .error f | .ok (.accepted g) | .ok (.exhausted last) => exact ⟨rfl, world⟩

theorem exchangeDescription (h : Alike past q w v) (settings : Settings) (remote : Endpoint) :
    Matches past q (World.exchangeDescription n settings remote w)
      (World.exchangeDescription (n.since past) settings remote v) := by
  refine h.withSocket n _ _ _ _ fun s w v h => ?_
  dsimp only
  refine (h.repeatRequest n s (.descriptionRequest (settings.announced s)) Description.ofBody
    settings.retries.description.toNat none).elim fun r w v world => ?_
  match r with
  | .error f | .ok (.accepted g) | .ok (.exhausted last) => exact ⟨rfl, world⟩

theorem describeForTunneling (h : Alike past q w v) (settings : Settings) (remote : Endpoint) :
    Matches past q (World.describeForTunneling n settings remote w)
      (World.describeForTunneling (n.since past) settings remote v) := by
  unfold World.describeForTunneling
  refine (h.exchangeDescription n settings remote).elim fun r w v world => ?_
  cases r with
  | error f => exact ⟨rfl, world⟩
  | ok found =>
    dsimp only
    split <;> exact ⟨rfl, world⟩

end Alike
end World
end KnxIp
