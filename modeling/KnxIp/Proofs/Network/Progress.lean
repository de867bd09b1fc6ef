/-
  How a world goes on.

  Sending, waiting and receiving only ever add to the journal. They enter no phase of the session,
  they leave the sockets and the channel as they are, and the only disconnect requests handed over
  are those the caller asks for (`World.Goes`, with their channels). As long as there is none of
  these, the peer counts as the one who closed the channel exactly if it did before, or asked for
  it in a datagram received meanwhile.

  All of this is for worlds whose sockets are running (`World.Up`).
-/
import KnxIp.Discovery
import KnxIp.KeepAlive
import KnxIp.Proofs.Channel.Dispatch

namespace KnxIp

/-! ## Reading a journal -/

namespace Journal

@[simp] theorem phases_append (xs ys : List Happening) :
    phases (xs ++ ys) = phases xs ++ phases ys := List.filterMap_append

@[simp] theorem disconnects_append (xs ys : List Happening) :
    disconnects (xs ++ ys) = disconnects xs ++ disconnects ys := List.filterMap_append

@[simp] theorem peerDisconnects_append (xs ys : List Happening) :
    peerDisconnects (xs ++ ys) = peerDisconnects xs ++ peerDisconnects ys := List.filterMap_append

@[simp] theorem phases_nil : phases [] = [] := rfl

@[simp] theorem phases_entered (p : SessionPhase) (xs : List Happening) :
    phases (.entered p :: xs) = p :: phases xs := rfl

end Journal

open Journal

theorem Datagram.disconnect?_body? {b : Body} {d : Datagram}
    (written : (Frame.ofBody b).bytes = .ok d.bytes) :
    d.body?.bind Body.disconnect? = b.disconnect? := by
  cases asked : b.disconnect? with
  | none =>
    cases read : d.body? with
    | none => rfl
    | some r =>
      have same := Frame.service_of_bodyIn? written read
      cases r with
      | disconnectRequest => cases b <;> cases same; cases asked
      | _ => rfl
  | some id =>
    obtain ⟨endpoint, rfl⟩ := Body.disconnect?_eq_some_iff.mp asked
    obtain ⟨bytes, h, read⟩ := Frame.bodyIn?_disconnectRequest id endpoint
    have same : bytes = d.bytes := Except.ok.inj (h.symm.trans written)
    rw [Datagram.body?, ← same, read]
    rfl

namespace World

/-- The channel of the connection. -/
abbrev channelId (w : World) : Option UInt8 := w.context.connection.channelId

/-- The last request to close the channel came from the peer. -/
abbrev peerClosed (w : World) : Bool := w.context.correlator.peerClosed

/-- Every socket is open and running. -/
def Up (w : World) : Prop := ∀ s ∈ w.sockets, s.isOpen = true ∧ s.running = true

/-- The second world has come about from the first one by sending, waiting and receiving. The
caller has asked to close these channels. -/
structure Goes (asked : List UInt8) (w v : World) : Prop where
  sockets : v.sockets = w.sockets
  keeps : w.context.Keeps v.context
  journal : ∃ since, v.journal = w.journal ++ since ∧ phases since = [] ∧
    disconnects since = asked ∧
    (asked = [] → (v.peerClosed = true ↔
      w.peerClosed = true ∨ ∃ id, w.channelId = some id ∧ id ∈ peerDisconnects since))

namespace Goes

theorem up {asked : List UInt8} {w v : World} (h : w.Goes asked v) (up : w.Up) : v.Up := by
  rw [Up, h.sockets]
  exact up

/-- Nothing has happened but a change of the context. -/
theorem of_keeps {w : World} {c : Context} (keeps : w.context.Keeps c)
    (same : c.correlator.peerClosed = w.peerClosed) : w.Goes [] { w with context := c } := by
  refine ⟨rfl, keeps, [], (List.append_nil _).symm, rfl, rfl, fun _ => ?_⟩
  show c.correlator.peerClosed = true ↔ _
  simp [same, peerDisconnects]

theorem refl (w : World) : w.Goes [] w := of_keeps (.refl _) rfl

theorem trans {asked asked' : List UInt8} {w v u : World} (h : w.Goes asked v)
    (k : v.Goes asked' u) : w.Goes (asked ++ asked') u := by
  obtain ⟨since, grown, quiet, own, closed⟩ := h.journal
  obtain ⟨since', grown', quiet', own', closed'⟩ := k.journal
  refine ⟨k.sockets.trans h.sockets, h.keeps.trans k.keeps, since ++ since', ?_, ?_, ?_, ?_⟩
  · rw [grown', grown, List.append_assoc]
  · rw [phases_append, quiet, quiet', List.append_nil]
  · rw [disconnects_append, own, own']
  · intro none
    obtain ⟨none, none'⟩ := List.append_eq_nil_iff.mp none
    have channel : v.channelId = w.channelId := h.keeps.channelId
    rw [closed' none', closed none, channel, peerDisconnects_append]
    simp only [List.mem_append, and_or_left, exists_or, or_assoc]

theorem trans_nil {asked : List UInt8} {w v u : World} (h : w.Goes asked v) (k : v.Goes [] u) :
    w.Goes asked u := by
  simpa using h.trans k

/-- The exchanges may be changed beforehand, as long as the peer stays the one who closed the
channel, or the caller asks to close it anyway. -/
theorem of_withCorrelator {asked : List UInt8} {w v : World} {correlator : Correlator}
    (h : (w.withContext fun c => { c with correlator }).Goes asked v)
    (same : asked = [] → correlator.peerClosed = w.peerClosed) : w.Goes asked v := by
  obtain ⟨since, grown, quiet, own, closed⟩ := h.journal
  refine ⟨h.sockets, ⟨h.keeps.channelId, h.keeps.accepting, h.keeps.lifecycle⟩,
    since, grown, quiet, own, fun none => ?_⟩
  rw [← same none]
  exact closed none

end Goes

variable (n : Network) (w : World)

/-! ## Receiving -/

theorem goes_log (sender : Sender) (socket : Endpoint) (d : Datagram) (refused : Bool) :
    w.Goes (d.body?.bind Body.disconnect?).toList (w.log sender socket d refused) := by
  refine ⟨rfl, .refl _, [.handed ⟨sender, socket, d, refused⟩], rfl, rfl, ?_, fun _ => ?_⟩
  · show List.filterMap _ [_] = _
    rw [List.filterMap_cons, Happening.disconnect?]
    cases d.body?.bind Body.disconnect? <;> rfl
  · simp [peerDisconnects, Happening.peerDisconnect?, log, note]

theorem goes_receive (s : Socket) (x : Waiting) : w.Goes [] (w.receive n s x) := by
  cases x with
  | failure fault => exact .of_keeps (Context.keeps_report _ _) rfl
  | datagram source bytes =>
    let r : Receipt := ⟨s.role, s.address, source, bytes.take maxFrameSize⟩
    let noted := w.note (.received r)
    let refusal : Refusal := fun d => (n.react noted.attempts .receiver s.address d).refusal
    let h := w.context.dispatch r.role s.peers refusal r.source r.bytes
    have handled : w.Goes [] { noted with context := h.context } := by
      refine ⟨rfl, Context.keeps_dispatch .., [.received r], rfl, rfl, rfl, fun _ => ?_⟩
      show h.context.correlator.peerClosed = true ↔ _
      rw [Context.peerClosed_dispatch]
      simp [peerDisconnects, Happening.peerDisconnect?]
    obtain ⟨-, ended⟩ | ⟨d, answer, ended⟩ := receive_cases n w s source bytes
    · rw [ended]
      exact handled
    · rw [ended]
      obtain ⟨-, b, written, noRequest⟩ := Context.reply_dispatch _ _ _ _ _ _ answer
      have replied := handled.trans
        ({ noted with context := h.context }.goes_log .receiver s.address d (refusal d).isSome)
      rw [Datagram.disconnect?_body? written] at replied
      cases b with
      | disconnectRequest => cases noRequest
      | _ => exact replied

theorem goes_arrive (up : w.Up) (address : Endpoint) (x : Waiting) :
    w.Goes [] (w.arrive n address x) := by
  unfold arrive
  split
  case h_1 => exact .refl w
  case h_2 s found =>
    obtain ⟨isOpen, running⟩ := up s (List.mem_of_find?_eq_some found)
    rw [isOpen, running]
    exact goes_receive n w s x

theorem goes_arriveAll (up : w.Up) (arrivals : List Arrival) :
    w.Goes [] (w.arriveAll n arrivals) := by
  induction arrivals generalizing w with
  | nil => exact .refl w
  | cons a arrivals ih =>
    have first := w.goes_arrive n up a.socket (.datagram a.source a.bytes)
    exact first.trans (ih _ (first.up up))

/-! ## Sending -/

section

variable (address : Endpoint) (b : Body) (destination : Endpoint)

/-- How sending ends: there is no such frame, the network refuses the datagram, or it takes it. -/
theorem sendTo_cases :
    (∃ f, (Frame.ofBody b).bytes = .error f ∧
      w.sendTo n address b destination = (.error (.ofFraming f), w)) ∨
    ∃ d : Datagram, (Frame.ofBody b).bytes = .ok d.bytes ∧ d.destination = destination ∧
      let reaction := n.react w.attempts .caller address d
      (∃ fault, reaction.refusal = some fault ∧ w.sendTo n address b destination =
        (.error (.transport fault), w.log .caller address d true)) ∨
      reaction.refusal = none ∧ w.sendTo n address b destination =
        (.ok (), ((w.log .caller address d false).arriveAll n reaction.arrivals).withContext
          (·.sent (Frame.ofBody b) d.bytes.length)) := by
  cases written : (Frame.ofBody b).bytes with
  | error f => exact .inl ⟨f, rfl, by simp only [sendTo, written]⟩
  | ok bytes =>
    refine .inr ⟨⟨bytes, destination⟩, rfl, rfl, ?_⟩
    cases taken : (n.react w.attempts .caller address ⟨bytes, destination⟩).refusal with
    | some fault => exact .inl ⟨fault, taken, by simp only [sendTo, written, taken]⟩
    | none => exact .inr ⟨taken, by simp only [sendTo, written, taken]⟩

end

theorem goes_sendTo (up : w.Up) (address : Endpoint) (b : Body) (destination : Endpoint) :
    w.Goes b.disconnect?.toList (w.sendTo n address b destination).2 := by
  obtain ⟨f, unwritten, ended⟩ | ⟨d, written, -, sent⟩ := sendTo_cases n w address b destination
  · rw [ended]
    cases asked : b.disconnect? with
    | none => exact .refl w
    | some id =>
      obtain ⟨endpoint, rfl⟩ := Body.disconnect?_eq_some_iff.mp asked
      obtain ⟨bytes, written, -⟩ := Frame.bodyIn?_disconnectRequest id endpoint
      cases unwritten.symm.trans written
  · have handed : ∀ refused,
        w.Goes b.disconnect?.toList (w.log .caller address d refused) := by
      intro refused
      rw [← Datagram.disconnect?_body? written]
      exact w.goes_log .caller address d refused
    obtain ⟨fault, -, ended⟩ | ⟨-, ended⟩ := sent
    · rw [ended]
      exact handed true
    · rw [ended]
      have arrived := (handed false).trans_nil (goes_arriveAll n _ ((handed false).up up)
        (n.react w.attempts .caller address d).arrivals)
      exact arrived.trans_nil (.of_keeps (Context.keeps_sent _ _ _) rfl)

theorem goes_send (up : w.Up) (s : Socket) (b : Body) :
    w.Goes b.disconnect?.toList (w.send n s b).2 := goes_sendTo n w up ..

/-- How a request ends: it is none, it cannot be sent, or it has been sent and what has come in
under its key is looked up. -/
theorem request_cases (s : Socket) (b : Body) :
    (∃ f, w.context.correlator.register b = .error f ∧
      w.request n s b = (.error (.ofValue f), w)) ∨
    ∃ key correlator, w.context.correlator.register b = .ok (key, correlator) ∧
      let sent := (w.withContext fun c => { c with correlator }).send n s b
      (∃ f, sent.1 = .error f ∧ w.request n s b = (.error f, sent.2)) ∨
      sent.1 = .ok () ∧
        w.request n s b = (.ok (sent.2.context.correlator.response? key), sent.2) := by
  cases registered : w.context.correlator.register b with
  | error f => exact .inl ⟨f, rfl, by simp only [request, registered]⟩
  | ok r =>
    obtain ⟨key, correlator⟩ := r
    refine .inr ⟨key, correlator, rfl, ?_⟩
    cases sent : (w.withContext fun c => { c with correlator }).send n s b with
    | mk result v =>
      cases result with
      | error f => exact .inl ⟨f, rfl, by simp only [request, registered, sent]⟩
      | ok _ => exact .inr ⟨rfl, by simp only [request, registered, sent]⟩

theorem goes_request (up : w.Up) (s : Socket) (b : Body) :
    w.Goes b.disconnect?.toList (w.request n s b).2 := by
  obtain ⟨f, refused, ended⟩ | ⟨key, correlator, registered, ended⟩ := request_cases n w s b
  · rw [ended]
    cases b with
    | disconnectRequest => cases refused
    | _ => exact .refl w
  · have sent := goes_send n (w.withContext fun c => { c with correlator }) up s b
    have all : w.Goes b.disconnect?.toList
        ((w.withContext fun c => { c with correlator }).send n s b).2 := by
      refine sent.of_withCorrelator fun none => ?_
      exact Correlator.peerClosed_register (Option.toList_eq_nil_iff.mp none) registered
    obtain ⟨f, -, ended⟩ | ⟨-, ended⟩ := ended
    · rw [ended]
      exact all
    · rw [ended]
      exact all

theorem goes_repeatRequest {α : Type} (up : w.Up) (s : Socket) {b : Body}
    (asked : b.disconnect? = none) (accept : Body → Option α) (budget : Nat)
    (last : Option Body) : w.Goes [] (repeatRequest n s b accept budget last w).2 := by
  induction budget generalizing last w with
  | zero => exact .refl w
  | succ budget ih =>
    have first := goes_request n w up s b
    rw [asked] at first
    unfold repeatRequest
    generalize w.request n s b = ended at first ⊢
    obtain ⟨result, v⟩ := ended
    match result with
    | .error f => exact first
    | .ok none => exact first.trans (ih v (first.up up) last)
    | .ok (some r) =>
      dsimp only
      cases accept r with
      | some a => exact first
      | none => exact first.trans (ih v (first.up up) (some r))

theorem goes_watch (up : w.Up) (s : Socket) (endpoint : Endpoint) (k : KeepAlive) :
    w.Goes [] (w.watch n s endpoint k).2 := by
  unfold watch
  dsimp only
  split
  case h_1 channel _ =>
    have checked : w.Goes [] (w.check n s channel endpoint).2 := by
      have sent := goes_request n w up s (.connectionStateRequest channel endpoint)
      unfold check
      split
      case h_1 ended => rwa [ended] at sent
      case h_2 ended => rwa [ended] at sent
      case h_3 ended => rwa [ended] at sent
    generalize w.check n s channel endpoint = ended at checked ⊢
    obtain ⟨alive, v⟩ := ended
    have givenUp : v.Goes [] v.giveUp :=
      .of_keeps ((Context.keeps_report _ _).trans (Context.keeps_requestClose _)) rfl
    dsimp only
    generalize KeepAlive.judge _ _ = judged
    show w.Goes [] (if judged.phase = .over true then v.giveUp else v)
    split
    · exact checked.trans givenUp
    · exact checked
  case h_2 => exact .refl w

/-! ## Sockets for one procedure -/

/-- The socket that is opened next. -/
def nextSocket (role : Role) (here : Endpoint) (peer : Endpoint) : Socket :=
  let port := if here.port = 0 then n.freePort w.opened else here.port
  { Socket.new role ⟨here.ip, port⟩ peer with running := true }

/-- The world with one more socket. -/
def opening (s : Socket) : World :=
  { w with sockets := w.sockets ++ [s], opened := w.opened + 1 }

theorem bind_cases (role : Role) (here peer : Endpoint) :
    (∃ fault, n.openRefusal w.opened = some fault ∧
      w.bind n role here peer = (.error (.transport fault), w)) ∨
    n.openRefusal w.opened = none ∧
      let s := w.nextSocket n role here peer
      w.bind n role here peer = (.ok s, w.opening s) := by
  cases refused : n.openRefusal w.opened with
  | some fault => exact .inl ⟨fault, rfl, by simp only [bind, refused]⟩
  | none => exact .inr ⟨rfl, by simp only [bind, refused, nextSocket, opening]⟩

/-- There are no sockets and no channel. -/
structure Bare (w : World) : Prop where
  sockets : w.sockets = []
  channelId : w.channelId = none

/-- The second world has come about from the first one, and nobody has asked to close a channel. -/
structure Leads (w v : World) : Prop where
  accepting : v.context.observers.accepting = w.context.observers.accepting
  lifecycle : v.context.observers.lifecycle = w.context.observers.lifecycle
  peerClosed : v.peerClosed = w.peerClosed
  journal : ∃ since, v.journal = w.journal ++ since ∧ phases since = [] ∧ disconnects since = []

theorem Leads.refl : w.Leads w := ⟨rfl, rfl, rfl, [], (List.append_nil _).symm, rfl, rfl⟩

variable {n w} {v u : World}

theorem Leads.trans (h : w.Leads v) (k : v.Leads u) : w.Leads u := by
  obtain ⟨since, grown, quiet, own⟩ := h.journal
  obtain ⟨since', grown', quiet', own'⟩ := k.journal
  refine ⟨k.accepting.trans h.accepting, k.lifecycle.trans h.lifecycle,
    k.peerClosed.trans h.peerClosed, since ++ since', ?_, ?_, ?_⟩
  · rw [grown', grown, List.append_assoc]
  · rw [phases_append, quiet, quiet', List.append_nil]
  · rw [disconnects_append, own, own', List.append_nil]

/-- Without a channel, the peer cannot have closed it. -/
theorem Goes.leads (h : w.Goes [] v) (free : w.channelId = none) : w.Leads v := by
  obtain ⟨since, grown, quiet, own, closed⟩ := h.journal
  refine ⟨h.keeps.accepting, h.keeps.lifecycle, Bool.eq_iff_iff.mpr ?_, since, grown, quiet, own⟩
  rw [closed rfl, free]
  simp

variable (n w)

theorem leads_opening (s : Socket) : w.Leads (w.opening s) :=
  ⟨rfl, rfl, rfl, [], (List.append_nil _).symm, rfl, rfl⟩

theorem leads_withSocket {α : Type} (bare : w.Bare) (settings : Settings) (role : Role)
    (socket : SocketSettings) (peer : Endpoint)
    (procedure : Socket → World → Except Failure α × World)
    (goes : ∀ (s : Socket) (v : World), v.Up → v.Goes [] (procedure s v).2) :
    let v := (w.withSocket n settings role socket peer procedure).2
    w.Leads v ∧ v.Bare := by
  unfold withSocket
  obtain ⟨fault, -, ended⟩ | ⟨-, ended⟩ :=
    bind_cases n w role ⟨settings.interfaceTo n peer, socket.port⟩ peer
  · rw [ended]
    exact ⟨.refl w, bare⟩
  · rw [ended]
    generalize opened : w.nextSocket n role ⟨settings.interfaceTo n peer, socket.port⟩ peer = s
    have sockets : (w.opening s).sockets = [s] := by simp [opening, bare.sockets]
    have up : (w.opening s).Up := by
      rw [Up, sockets, ← opened]
      simp [nextSocket, Socket.new]
    have done := goes s (w.opening s) up
    have led : w.Leads (procedure s (w.opening s)).2 :=
      (w.leads_opening s).trans (done.leads bare.channelId)
    refine ⟨⟨led.accepting, led.lifecycle, led.peerClosed, led.journal⟩, ?_, ?_⟩
    · show List.filter _ (procedure s (w.opening s)).2.sockets = []
      rw [done.sockets, sockets]
      simp
    · exact done.keeps.channelId.trans bare.channelId

theorem leads_discover (bare : w.Bare) (settings : Settings) :
    let v := (discover n settings w).2
    w.Leads v ∧ v.Bare := by
  refine leads_withSocket n w bare _ _ _ _ _ fun s v up => ?_
  have sent := goes_repeatRequest n v up s (b := .searchRequest (settings.announced s)) rfl
    FoundGateway.ofBody settings.retries.discovery.toNat none
  dsimp only
  split
  case h_1 ended => rwa [ended] at sent
  case h_2 ended => rwa [ended] at sent
  case h_3 ended => rwa [ended] at sent

theorem leads_exchangeDescription (bare : w.Bare) (settings : Settings)
    (remote : Endpoint) :
    let v := (exchangeDescription n settings remote w).2
    w.Leads v ∧ v.Bare := by
  refine leads_withSocket n w bare _ _ _ _ _ fun s v up => ?_
  have sent := goes_repeatRequest n v up s (b := .descriptionRequest (settings.announced s)) rfl
    Description.ofBody settings.retries.description.toNat none
  dsimp only
  split
  case h_1 ended => rwa [ended] at sent
  case h_2 ended => rwa [ended] at sent
  case h_3 ended => rwa [ended] at sent

theorem leads_describeForTunneling (bare : w.Bare) (settings : Settings)
    (remote : Endpoint) :
    let v := (describeForTunneling n settings remote w).2
    w.Leads v ∧ v.Bare := by
  have asked := leads_exchangeDescription n w bare settings remote
  unfold describeForTunneling
  generalize exchangeDescription n settings remote w = ended at asked ⊢
  obtain ⟨result, v⟩ := ended
  cases result with
  | error f => exact asked
  | ok found =>
    dsimp only
    split <;> exact asked

end World
end KnxIp
