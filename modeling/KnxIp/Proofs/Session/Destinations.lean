/-
  Where the datagrams of a tunnel go.

  A grant fixes two endpoints: that of the gateway, and the one for the data channel. What a session
  hands over afterwards goes to one of them, or is the reply to a request that has just been
  received and goes where that request says (`Attempt.Addressed`). This is shown of each step of the
  world (`addressed_of_step`), because a step hands over one datagram at most, and then of all that
  is done until the next start (`addressed_of_continues`).

  Main statement: `destinations_of_start`.
-/
import KnxIp.Proofs.Channel.Reaction
import KnxIp.Proofs.Session.Granting
import KnxIp.Proofs.Session.Lifecycle

namespace KnxIp

/-! ## Replies -/

/-- Neither the address nor the port is zero. -/
def Endpoint.Usable (e : Endpoint) : Prop := e.ip ≠ .unspecified ∧ e.port ≠ 0

theorem Endpoint.replyTo_of_usable {e : Endpoint} (usable : e.Usable) (fallback : Endpoint) :
    e.replyTo fallback = e := if_neg (not_or.mpr usable)

theorem Endpoint.replyTo_of_not_usable {e : Endpoint} (h : ¬ e.Usable) (fallback : Endpoint) :
    e.replyTo fallback = fallback := by
  have zero : e.ip = .unspecified ∨ e.port = 0 := by
    by_contra neither
    exact h (not_or.mp neither)
  exact if_pos zero

/-- The endpoint that a request of the gateway asks to be answered at. -/
def Body.answerAt? : Body → Option Endpoint
  | .connectionStateRequest _ endpoint => some endpoint
  | .disconnectRequest _ endpoint => some endpoint
  | _ => none

theorem Body.eq_tunnelingRequest {b answer : Body} (answers : b.answer? = some answer)
    (asks : b.answerAt? = none) : ∃ header telegram, b = .tunnelingRequest header telegram := by
  cases b with
  | tunnelingRequest header telegram => exact ⟨header, telegram, rfl⟩
  | connectionStateRequest | disconnectRequest => cases asks
  | _ => cases answers

namespace Context

/-- What is sent in reply to a body that came from there. -/
structure Replies (role : Role) (peers : Peers) (source : Endpoint) (b : Body) (d : Datagram) :
    Prop where
  handled : (role.handling b.service).isSome = true
  written : ∃ r, b.answer? = some r ∧ (Frame.ofBody r).bytes = .ok d.bytes
  destination : d.destination =
    (b.answerAt?.map (·.replyTo source)).getD (peers.ofChannel .data)

theorem eq_of_reply {c : Context} {refusal : Refusal} {b : Body} {destination : Endpoint}
    {d : Datagram} (h : (c.reply refusal b destination).2.reply = some d) :
    (Frame.ofBody b).bytes = .ok d.bytes ∧ d.destination = destination := by
  unfold reply at h
  dsimp only at h
  cases written : (Frame.ofBody b).bytes with
  | error f =>
    rw [written] at h
    cases h
  | ok bytes =>
    rw [written] at h
    dsimp only at h
    split at h <;> cases h <;> exact ⟨rfl, rfl⟩

/-- Three kinds of request are replied to. -/
theorem replies_of_handle {c : Context} {role : Role} {peers : Peers} {refusal : Refusal}
    {source : Endpoint} {handling : Handling} {b : Body} {d : Datagram}
    (known : role.handling b.service = some handling)
    (h : (c.handle peers refusal source handling b).2.reply = some d) :
    Replies role peers source b d := by
  have handled : (role.handling b.service).isSome = true := by rw [known]; rfl
  unfold handle at h
  split at h
  case h_2 id endpoint =>
    obtain ⟨written, there⟩ := eq_of_reply h
    exact ⟨handled, ⟨_, rfl, written⟩, there⟩
  case h_3 id endpoint =>
    obtain ⟨written, there⟩ := eq_of_reply
      (c := { c with correlator := c.correlator.registerInbound _ }) h
    exact ⟨handled, ⟨_, rfl, written⟩, there⟩
  case h_4 header telegram =>
    dsimp only at h
    have sent := fun d => @eq_of_reply c refusal
      (.tunnelingAck ⟨header.channel, header.sequence, statusOk⟩) (peers.ofChannel .data) d
    generalize c.reply refusal _ _ = answer at h sent
    obtain ⟨result, answered⟩ := answer
    have same : answered.reply = some d := by
      cases result <;> exact h
    obtain ⟨written, there⟩ := sent d same
    exact ⟨handled, ⟨_, rfl, written⟩, there⟩
  all_goals cases h

theorem replies_of_dispatch {c : Context} {role : Role} {peers : Peers} {refusal : Refusal}
    {source : Endpoint} {bytes : Bytes} {d : Datagram}
    (h : (c.dispatch role peers refusal source bytes).reply = some d) :
    ∃ b, Frame.bodyIn? bytes = some b ∧ Replies role peers source b d := by
  obtain ⟨f, handled, -⟩ | ⟨frame, size, read, handled⟩ :=
    c.dispatch_cases role peers refusal source bytes
  · rw [handled] at h
    cases h
  · rw [handled] at h
    refine ⟨frame.body, read, ?_⟩
    unfold handleFrame at h
    split at h
    · cases h
    · split at h
      · cases h
      · next handling known =>
        have sent := fun d => @replies_of_handle (c.received frame size) role peers refusal source
          handling frame.body d known
        generalize (c.received frame size).handle peers refusal source handling frame.body = ended
          at h sent
        obtain ⟨result, answered⟩ := ended
        exact sent d (by cases result <;> exact h)

end Context

/-! ## Where what is handed over goes -/

/-- A datagram that is handed over after these happenings goes to the right place, if the gateway is
at one endpoint and takes frames of the data channel at another. -/
inductive Attempt.Addressed (remote data : Endpoint) (before : List Happening) (a : Attempt) :
    Prop
  /-- Whoever sends it. -/
  | data (s : Service) (sort : a.datagram.service? = some s) (channel : s.channel = .data)
      (there : a.datagram.destination = data)
  | control (caller : a.sender = .caller) (s : Service) (sort : a.datagram.service? = some s)
      (channel : s.channel = .control) (there : a.datagram.destination = remote)
  /-- The answer to what was received just before. -/
  | reply (receiver : a.sender = .receiver) (earlier : List Happening) (r : Receipt)
      (just : before = earlier ++ [.received r]) (b answer : Body)
      (read : Frame.bodyIn? r.bytes = some b) (answers : b.answer? = some answer)
      (written : (Frame.ofBody answer).bytes = .ok a.datagram.bytes)
      (e : Endpoint) (asks : b.answerAt? = some e)
      (usable : e.Usable → a.datagram.destination = e)
      (unusable : ¬ e.Usable → a.datagram.destination = r.source)

/-- All datagrams that were handed over go to the right place. -/
def Journal.Addressed (remote data : Endpoint) (journal : List Happening) : Prop :=
  ∀ before a after, journal = before ++ .handed a :: after → a.Addressed remote data before

open Journal

variable {remote data : Endpoint} {xs ys : List Happening}

theorem Attempt.Addressed.later {a : Attempt} (h : a.Addressed remote data ys)
    (xs : List Happening) : a.Addressed remote data (xs ++ ys) := by
  cases h with
  | data s sort channel there => exact .data s sort channel there
  | control caller s sort channel there => exact .control caller s sort channel there
  | reply receiver earlier r just b answer read answers written e asks usable unusable =>
    refine .reply receiver (xs ++ earlier) r ?_ b answer read answers written e asks usable unusable
    rw [just, List.append_assoc]

namespace Journal

theorem addressed_nil : Addressed remote data [] := fun before a after same => by
  simp at same

theorem addressed_concat (h : Addressed remote data xs) {x : Happening}
    (last : ∀ a, x = .handed a → a.Addressed remote data xs) :
    Addressed remote data (xs ++ [x]) := by
  intro before a after same
  obtain rfl | ⟨after, y, rfl⟩ := List.eq_nil_or_concat after
  · obtain ⟨rfl, rfl⟩ := List.append_inj' same rfl |>.imp id List.singleton_inj.mp
    exact last a rfl
  · rw [List.concat_eq_append, ← List.cons_append, ← List.append_assoc] at same
    exact h before a after (List.append_inj' same rfl).1

theorem addressed_singleton {x : Happening}
    (h : ∀ a, x = .handed a → a.Addressed remote data []) : Addressed remote data [x] :=
  addressed_concat addressed_nil h

theorem Addressed.append (h : Addressed remote data xs) (k : Addressed remote data ys) :
    Addressed remote data (xs ++ ys) := by
  intro before a after same
  obtain ⟨front, rfl, rest⟩ | ⟨front, rfl, rest⟩ := List.append_eq_append_iff.mp same
  · exact (k front a after rest).later xs
  · cases front with
    | nil =>
      obtain rfl : ys = .handed a :: after := rest.symm
      simpa using (k [] a after rfl).later before
    | cons x front =>
      obtain ⟨rfl, rfl⟩ := List.cons.inj rest
      exact h before a front rfl

end Journal

/-! ## One step of the world -/

open Session (Towards)

/-- The reply of a socket that sends frames of its channels to the right place. -/
theorem addressed_of_replies {s : Socket} {r : Receipt} {b : Body} {d : Datagram}
    (fits : ∀ b : Body, s.role.accepts b.service.channel = true → Towards remote data s.peers b)
    (read : Frame.bodyIn? r.bytes = some b)
    (replies : Context.Replies s.role s.peers r.source b d) (refused : Bool) :
    Attempt.Addressed remote data [.received r] ⟨.receiver, s.address, d, refused⟩ := by
  obtain ⟨handled, ⟨answer, answers, written⟩, destination⟩ := replies
  cases asks : b.answerAt? with
  | some e =>
    rw [asks] at destination
    exact .reply rfl [] r rfl b answer read answers written e asks
      (fun usable => destination.trans (e.replyTo_of_usable usable r.source))
      (fun unusable => destination.trans (e.replyTo_of_not_usable unusable r.source))
  | none =>
    rw [asks] at destination
    obtain ⟨header, telegram, rfl⟩ := Body.eq_tunnelingRequest answers asks
    cases answers
    let ack : Body := .tunnelingAck ⟨header.channel, header.sequence, statusOk⟩
    -- What is sent is an acknowledgement, so the socket has to be one that sends such frames.
    have accepts : s.role.accepts .data = true := by
      cases role : s.role <;> rw [role] at handled <;> first | rfl | cases handled
    obtain ⟨other, -⟩ | ⟨-, there⟩ := fits ack accepts
    · cases other
    · exact .data _ (Datagram.service?_of_written written) rfl (destination.trans there)

namespace World

variable {w v : World}

theorem addressed_of_receive (n : Network) (w : World) {s : Socket}
    (fits : ∀ b : Body, s.role.accepts b.service.channel = true → Towards remote data s.peers b)
    (x : Waiting) :
    ∃ since, (w.receive n s x).journal = w.journal ++ since ∧ Addressed remote data since := by
  cases x with
  | failure fault => exact ⟨[], (List.append_nil _).symm, addressed_nil⟩
  | datagram source bytes =>
    refine ⟨_, (context_and_journal_receive n w s source bytes).2, ?_⟩
    have received (r : Receipt) : Addressed remote data [.received r] :=
      addressed_singleton fun a same => by cases same
    dsimp only
    cases reply : (w.context.dispatch _ _ _ _ _).reply with
    | none => exact received _
    | some d =>
      obtain ⟨b, read, replies⟩ := Context.replies_of_dispatch reply
      refine addressed_concat (received _) fun a same => ?_
      cases same
      exact addressed_of_replies fits read replies _

theorem addressed_of_step (step : Step (Towards remote data) w v)
    (fits : w.Fits (Towards remote data)) :
    ∃ since, v.journal = w.journal ++ since ∧ Addressed remote data since := by
  have silent : ∃ since, w.journal = w.journal ++ since ∧ Addressed remote data since :=
    ⟨[], (List.append_nil _).symm, addressed_nil⟩
  cases step with
  | arrive n address x =>
    unfold World.arrive
    split
    · exact silent
    · next s found =>
      split
      · exact silent
      · split
        · exact addressed_of_receive n w (fits s (List.mem_of_find?_eq_some found)) x
        · exact silent
  | hand s b d refused used written there =>
    refine ⟨_, rfl, addressed_singleton fun a same => ?_⟩
    cases same
    have sort := Datagram.service?_of_written written
    obtain ⟨channel, toRemote⟩ | ⟨channel, toData⟩ := used
    · exact .control rfl _ sort channel (there.trans (channel ▸ toRemote))
    · exact .data _ sort channel (there.trans (channel ▸ toData))
  | account f same => exact silent
  | enter phase =>
    exact ⟨_, rfl, addressed_singleton fun a same => by cases same⟩
  | vacate => exact silent

/-- By induction on the steps: no step changes where the sockets send to. -/
theorem addressed_of_steps (steps : Steps (Towards remote data) w v)
    (fits : w.Fits (Towards remote data)) :
    ∃ since, v.journal = w.journal ++ since ∧ Addressed remote data since := by
  induction steps with
  | refl => exact ⟨[], (List.append_nil _).symm, addressed_nil⟩
  | tail before step ih =>
    obtain ⟨since, journal, addressed⟩ := ih
    obtain ⟨later, journal', addressed'⟩ := addressed_of_step step (Steps.fits before fits)
    refine ⟨since ++ later, ?_, addressed.append addressed'⟩
    rw [journal', journal, List.append_assoc]

end World

/-! ## After a start -/

namespace Session

variable {uses : Peers → Body → Prop} {s t : Session}

/-- None of the steps is a start that is admitted. -/
def Lasts (s : Session) : List (Network × Operation) → Prop
  | [] => True
  | (n, op) :: steps => (op = .start → s.phase ≠ .notStarted) ∧ (s.apply n op).Lasts steps

/-- By induction on the steps. -/
theorem continues_runOn (fits : s.Fits uses) {steps : List (Network × Operation)}
    (lasts : s.Lasts steps) : Continues uses s (s.runOn steps) := by
  induction steps generalizing s with
  | nil => exact .refl s
  | cons step steps ih =>
    obtain ⟨first, rest⟩ := lasts
    have continues := continues_apply step.1 fits first
    exact continues.trans (ih (fits.continues continues) rest)

/-- While the session is started, a frame is sent to the endpoint for its channel, or refused if it
is not of the channels of a tunnel. -/
def Directs (remote data : Endpoint) (s : Session) : Prop :=
  ∀ (n : Network) (b : Body),
    (∀ there, (b.service.channel = .control ∧ there = remote ∨
        b.service.channel = .data ∧ there = data) →
      ∃ address, s.send n b = ((s.world.sendTo n address b there).1,
        { s with world := (s.world.sendTo n address b there).2 })) ∧
    (b.service.channel ≠ .control → b.service.channel ≠ .data →
      ∃ f : Failure, f.isIllegalArgument = true ∧
        s.send n b = (.error f, s) ∧ s.request n b = (.error f, s))

theorem directs_of_fits (live : s.Live) (mode : s.settings.mode = .tunneling)
    (fits : s.Fits (Towards remote data)) : s.Directs remote data := by
  have tunnels : s.Tunnels := by
    obtain routes | tunnels := live.services
    · cases routes.mode.symm.trans mode
    · exact tunnels
  have started : s.isStarted = true := by simp [isStarted, live.phase]
  refine fun n b => ⟨fun there which => ?_, fun noControl noData => ?_⟩
  · have tunneled : b.service.channel = .control ∨ b.service.channel = .data :=
      which.imp And.left And.left
    obtain ⟨socket, found⟩ := socketFor_of_tunnelRoles tunnels.roles tunneled
    have routed : s.route b = .ok socket := route_eq_ok_iff.mpr ⟨started, found⟩
    have same : socket.peers.ofChannel b.service.channel = there := by
      obtain ⟨channel, toRemote⟩ | ⟨channel, toData⟩ := fits.of_route routed
      · obtain ⟨-, rfl⟩ | ⟨other, -⟩ := which
        · rw [channel, toRemote]
        · cases channel.symm.trans other
      · obtain ⟨other, -⟩ | ⟨-, rfl⟩ := which
        · cases channel.symm.trans other
        · rw [channel, toData]
    refine ⟨socket.address, ?_⟩
    rw [send, routed, ← same]
    rfl
  · have refused : s.route b = .error (.ofValue (.noChannel b.service.channel b.service)) := by
      have none : s.socketFor b.service.channel = none := by
        by_contra some
        obtain ⟨socket, found⟩ := Option.ne_none_iff_exists'.mp some
        obtain ⟨mem, accepts⟩ := mem_of_socketFor found
        obtain ⟨channel, -⟩ | ⟨channel, -⟩ := fits.sockets socket mem b accepts
        · exact noControl channel
        · exact noData channel
      rw [route, started, none]
      rfl
    exact ⟨_, rfl, by rw [send, refused], by rw [request, refused]⟩

/-- A start in tunneling mode that ends well fixes where everything goes until the next one. The
gateway is the one in the settings or has answered the search, and the connect response that was
accepted was received since. Frames of the data channel go to the endpoint in that response, or to
the gateway if it has none or its address or port is zero. Frames of the control channel go to the
gateway, and replies to its requests go to the endpoint in the request, or to where it came from if
that has a zero. Nothing else is handed over: a frame of another channel is an illegal argument. -/
theorem destinations_of_start (n : Network) (settings : Settings) (context : Context)
    (fresh : context.connection.channelId = none) (before : List (Network × Operation))
    (mode : ((Session.new settings context).runOn before).settings.mode = .tunneling)
    (started : (((Session.new settings context).runOn before).start n).1 = .ok ()) :
    let s := (Session.new settings context).runOn before
    let t := (s.start n).2
    ∃ remote data channel announced assigned,
      let granted : Body := .connectResponse channel statusOk announced assigned
      (t.negotiated.remote = some remote ∧
        (s.settings.remote = some remote ∨ s.settings.remote = none ∧ ∃ description,
          World.Received (.searchResponse remote description) s.world t.world)) ∧
      (t.channelId = some channel ∧
        t.context.correlator.response? .connect = some granted ∧
        World.Received granted s.world t.world) ∧
      (∀ e, announced = some e → e.Usable → data = e) ∧
      ((∀ e, announced = some e → ¬ e.Usable) → data = remote) ∧
      ∀ later, t.Lasts later →
        (∃ since, (t.runOn later).world.journal = t.world.journal ++ since ∧
          Addressed remote data since) ∧
        ((t.runOn later).isStarted = true → (t.runOn later).Directs remote data) := by
  intro s t
  have settled : s.Settled := (advances_runOn (.inl (down_new settings fresh)) before).1
  have down : s.Down := settled.resolve_right fun live => by
    have refused : s.start n = (.error (.connection .alreadyStarted), s) :=
      if_pos (live.phase ▸ nofun)
    rw [refused] at started
    cases started
  obtain ⟨remote, grant, granted, found⟩ := granted_of_start down mode started
  refine ⟨remote, grant.peer remote, grant.channel, grant.data, grant.assigned,
    ⟨granted.gateway, found⟩, ⟨granted.channelId, granted.response, granted.received⟩,
    fun e announced usable => ?_, fun unusable => ?_, fun later lasts => ⟨?_, fun still => ?_⟩⟩
  · rw [Start.Grant.peer, announced]
    exact e.replyTo_of_usable usable remote
  · unfold Start.Grant.peer
    cases announced : grant.data with
    | none => rfl
    | some e => exact e.replyTo_of_not_usable (unusable e announced) remote
  · exact World.addressed_of_steps (continues_runOn granted.fits lasts).world granted.fits.sockets
  · have begun : t.Settled := (advances_apply n settled .start).1
    -- Only a session that holds a tunnel has a channel between two operations.
    have tunnels : t.Tunnels := by
      obtain down | live := begun
      · cases down.channelId.symm.trans granted.channelId
      · refine live.services.resolve_left fun routes => ?_
        cases routes.channelId.symm.trans granted.channelId
    have live : (t.runOn later).Live := (advances_runOn begun later).1.resolve_left fun down => by
      rw [isStarted, down.phase] at still
      cases still
    have continues := continues_runOn granted.fits lasts
    have fits := granted.fits.continues continues
    exact directs_of_fits live (continues.settings ▸ tunnels.mode) fits

/-- A gateway that takes tunneled telegrams at its second endpoint. -/
def dividing : Gateway where
  script
    | .connectRequest =>
      [fun _ => [granting.written (.connectResponse 5 statusOk (some Gateway.side) none)]]
    | s => (granting []).script s

/-- Behind an address translator one socket keeps the two apart: a telegram is acknowledged to the
second endpoint, and the channel is closed at the first one. -/
theorem destinations_of_start_dividing :
    let n := dividing.network
    let settings := { Settings.tunnelingTo Gateway.main with nat := true }
    let t := ((Session.new settings (.new .nobody)).start n).2
    let later : List (Network × Operation) := [
      (n, .arrive ⟨.loopback, 49153⟩ Gateway.main
        [6, 16, 4, 32, 0, 21, 4, 5, 0, 0, 0x29, 0, 0x94, 0xE0, 0x11, 5, 0x0A, 3, 1, 0, 0x81]),
      (n, .close)]
    t.roles = [.shared] ∧ t.channelId = some 5 ∧
      (∃ since, (t.runOn later).world.journal = t.world.journal ++ since ∧
        Addressed Gateway.main Gateway.side since) ∧
      ((t.runOn later).world.attempts.drop t.world.attempts.length).map
        (·.datagram.destination) = [Gateway.side, Gateway.main] ∧
      t.Directs Gateway.main Gateway.side := by
  intro n settings t later
  have started : ((Session.new settings (.new .nobody)).start n).1 = .ok () :=
    toOption_eq_some_iff.mp (by decide +kernel)
  obtain ⟨remote, data, channel, announced, assigned, ⟨-, found⟩, ⟨-, response, -⟩, usable, -,
    lasting⟩ := destinations_of_start n settings (.new .nobody) rfl [] rfl started
  obtain rfl : remote = Gateway.main := by
    obtain set | ⟨unset, -⟩ := found
    · exact (Option.some.inj set).symm
    · cases unset
  obtain rfl : announced = some Gateway.side := by
    have known : t.context.correlator.response? .connect =
        some (.connectResponse 5 statusOk (some Gateway.side) none) := by decide +kernel
    cases response.symm.trans known
    rfl
  obtain rfl : data = Gateway.side := usable _ rfl ⟨by decide, by decide⟩
  have lasts : t.Lasts later := ⟨fun h => (by cases h), fun h => (by cases h), trivial⟩
  exact ⟨by decide +kernel, by decide +kernel, (lasting later lasts).1, by decide +kernel,
    (lasting [] trivial).2 (by decide +kernel)⟩

end Session
end KnxIp
