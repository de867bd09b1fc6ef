/-
  What a start that ends well leaves behind.

  A start in tunneling mode that ends well has taken each of its steps with success, so its end can
  be read off them one after the other (`bind_eq_ok`): where the gateway is, which connect response
  was accepted, and where the sockets send to from then on (`Granted`). The responses that it relies
  on were received by one of its sockets (`World.Received`). Main statement: `granted_of_start`.
-/
import KnxIp.Proofs.Network.Answers
import KnxIp.Proofs.Session.Progress
import KnxIp.Proofs.Session.Steps

namespace KnxIp

open ExchangeKey (ofRequest)

/-! ## What was received -/

namespace World

/-- Between the two moments a socket has received a datagram with this body. -/
def Received (r : Body) (w v : World) : Prop :=
  ∃ since x, v.journal = w.journal ++ since ∧ Happening.received x ∈ since ∧
    Frame.bodyIn? x.bytes = some r

variable (n : Network) {w v u x : World} {r b : Body} {k : ExchangeKey}

theorem Received.widen (h : Received r w v) (before : u.journal <+: w.journal)
    (after : v.journal <+: x.journal) : Received r u x := by
  obtain ⟨since, y, journal, mem, read⟩ := h
  obtain ⟨earlier, before⟩ := before
  obtain ⟨later, after⟩ := after
  refine ⟨earlier ++ since ++ later, y, ?_, ?_, read⟩
  · rw [← after, journal, ← before]
    simp
  · simp [mem]

theorem Received.journal (h : Received r w v) : w.journal <+: v.journal :=
  have ⟨since, _, grown, _⟩ := h
  ⟨since, grown.symm⟩

/-- A response that is there after arrivals, and was not before, is in one of them. -/
theorem received_of_arriveAll (key : ofRequest b = some k) (fresh : w.context.responses k = [])
    (arrivals : List Arrival)
    (told : (w.arriveAll n arrivals).context.correlator.response? k = some r) :
    Received r w (w.arriveAll n arrivals) := by
  have steps : Steps (fun _ _ => True) w (w.arriveAll n arrivals) := steps_arriveAll n w arrivals
  obtain ⟨actions, receives⟩ := receives_arriveAll n w arrivals
  have noted : r ∈ (w.context.actAll actions).responses k := by
    rw [← receives.context]
    exact List.mem_of_mem_head? (Option.mem_def.mpr told)
  obtain ⟨past, a, future, rfl, answers⟩ := Context.answered_of_mem_responses key fresh noted
  obtain ⟨since, journal⟩ := steps.journal
  cases answers with
  | @dispatched y peers refusal read answer notes =>
    have received : y ∈ since.filterMap Happening.receipt? := by
      have all := receives.receipts
      rw [receipts, ← journal, List.filterMap_append, List.map_append] at all
      have among := List.append_cancel_left all
      have mem : some y ∈ (since.filterMap Happening.receipt?).map some := by
        rw [among]
        simp [Action.receipt?]
      simpa using mem
    obtain ⟨h, mem, same⟩ := List.mem_filterMap.mp received
    cases h with
    | received z =>
      cases same
      exact ⟨since, y, journal.symm, mem, read⟩
    | _ => cases same

/-- A request that is answered leaves its response noted, and a socket has received it. -/
theorem received_of_request {s : Socket} (told : (w.request n s b).1 = .ok (some r)) :
    ∃ k, ofRequest b = some k ∧
      (w.request n s b).2.context.correlator.response? k = some r ∧
      Received r w (w.request n s b).2 := by
  obtain ⟨f, -, ended⟩ | ⟨k, correlator, registered, ended⟩ := request_cases n w s b
  · rw [ended] at told
    cases told
  · obtain ⟨f, -, ended⟩ | ⟨taken, ended⟩ := ended
    · rw [ended] at told
      cases told
    · rw [ended] at told ⊢
      have told : _ = some r := Except.ok.inj told
      let ready := w.withContext fun c => { c with correlator }
      have key := (Correlator.register_eq_ok registered).1
      refine ⟨k, key, told, ?_⟩
      unfold send at taken told ⊢
      obtain ⟨f, -, sent⟩ | ⟨d, -, -, ⟨fault, -, sent⟩ | ⟨-, sent⟩⟩ :=
        sendTo_cases n ready s.address b (s.peers.ofChannel b.service.channel)
      · rw [sent] at taken
        cases taken
      · rw [sent] at taken
        cases taken
      · rw [sent] at told ⊢
        let handed := ready.log .caller s.address d false
        have fresh : handed.context.responses k = [] := by
          have opened := w.context.responses_register key
          rwa [Context.act, Correlator.apply, registered] at opened
        have heard : Received r handed (handed.arriveAll n _) :=
          received_of_arriveAll n key fresh _ told
        exact heard.widen (List.prefix_append ..) List.prefix_rfl

/-- By induction on the budget: the response to the last attempt is the one that is accepted. -/
theorem received_of_repeatRequest {α : Type} {s : Socket} {accept : Body → Option α} {a : α}
    (budget : Nat) {last : Option Body}
    (accepted : (repeatRequest n s b accept budget last w).1 = .ok (.accepted a)) :
    ∃ k r, ofRequest b = some k ∧ accept r = some a ∧
      (repeatRequest n s b accept budget last w).2.context.correlator.response? k = some r ∧
      Received r w (repeatRequest n s b accept budget last w).2 := by
  induction budget generalizing last w with
  | zero => cases accepted
  | succ budget ih =>
    have steps : Steps (fun _ _ => True) w (w.request n s b).2 := steps_request n w trivial
    have grown := steps.journal
    have further {last : Option Body} {v : World} (journal : w.journal <+: v.journal)
        (h : (repeatRequest n s b accept budget last v).1 = .ok (.accepted a)) :
        ∃ k r, ofRequest b = some k ∧ accept r = some a ∧
          (repeatRequest n s b accept budget last v).2.context.correlator.response? k = some r ∧
          Received r w (repeatRequest n s b accept budget last v).2 := by
      obtain ⟨k, r, key, good, noted, heard⟩ := ih h
      exact ⟨k, r, key, good, noted, heard.widen journal List.prefix_rfl⟩
    have answered := fun r => @received_of_request n w r b s
    unfold repeatRequest at accepted ⊢
    generalize w.request n s b = ended at accepted grown answered ⊢
    obtain ⟨failed | _ | r, v⟩ := ended
    · cases accepted
    · exact further grown accepted
    · dsimp only at accepted ⊢
      cases good : accept r with
      | none =>
        rw [good] at accepted
        exact further grown accepted
      | some a' =>
        rw [good] at accepted
        cases accepted
        obtain ⟨k, key, noted, heard⟩ := answered r rfl
        exact ⟨k, r, key, good, noted, heard⟩

/-- The gateway that is found has answered the search. -/
theorem received_of_discover {settings : Settings} {g : FoundGateway}
    (found : (discover n settings w).1 = .ok g) :
    Received (.searchResponse g.control g.description) w (discover n settings w).2 := by
  unfold discover withSocket at found ⊢
  obtain ⟨fault, -, ended⟩ | ⟨-, ended⟩ := bind_cases n w .discovery
    ⟨settings.interfaceTo n settings.discoveryEndpoint, settings.discovery.port⟩
    settings.discoveryEndpoint
  · rw [ended] at found
    cases found
  · rw [ended] at found ⊢
    generalize w.nextSocket n _ _ _ = s at found ⊢
    have heard := fun g => @received_of_repeatRequest n (w.opening s)
      (.searchRequest (settings.announced s)) FoundGateway s FoundGateway.ofBody g
      settings.retries.discovery.toNat none
    dsimp only at found ⊢
    generalize repeatRequest n s _ _ _ _ _ = ended at found heard ⊢
    obtain ⟨f | g' | last, v⟩ := ended <;> cases found
    obtain ⟨k, r, -, good, -, heard⟩ := heard g rfl
    have same : r = .searchResponse g.control g.description := by
      cases r <;> cases good
      rfl
    exact same ▸ heard

end World

namespace Session

/-! ## Where the sockets of a tunnel send to -/

/-- Frames of the channels of a tunnel, with peers that send them to these two endpoints. -/
def Towards (remote data : Endpoint) (p : Peers) (b : Body) : Prop :=
  b.service.channel = .control ∧ p.ofChannel .control = remote ∨
    b.service.channel = .data ∧ p.ofChannel .data = data

/-- A socket of a tunnel with these peers. -/
structure Belongs (remote data : Endpoint) (socket : Socket) : Prop where
  tunnel : ∀ channel, socket.role.accepts channel = true → channel = .control ∨ channel = .data
  main : socket.peers.main = remote
  data : socket.role.accepts .data = true → socket.peers.ofChannel .data = data

theorem Belongs.towards {remote data : Endpoint} {socket : Socket}
    (h : Belongs remote data socket) {b : Body}
    (accepts : socket.role.accepts b.service.channel = true) :
    Towards remote data socket.peers b := by
  obtain control | toData := h.tunnel _ accepts
  · exact .inl ⟨control, h.main⟩
  · exact .inr ⟨toData, h.data (toData ▸ accepts)⟩

namespace Start

/-- The response that grants it. -/
def Grant.response (g : Grant) : Body := .connectResponse g.channel statusOk g.data g.assigned

/-- Where frames of the data channel go. -/
def Grant.peer (g : Grant) (remote : Endpoint) : Endpoint :=
  (g.data.map (·.replyTo remote)).getD remote

theorem Grant.eq_response {g : Grant} {r : Body} (h : Grant.ofBody r = some g) :
    r = g.response := by
  unfold ofBody at h
  split at h
  · split at h
    · next good =>
      cases h
      rw [good]
      rfl
    · cases h
  · cases h

/-! ## The steps of a start, from the success of each -/

variable {α β : Type} {n : Network} {settings : Settings} {remote : Endpoint} {t u : Session}

/-- A start that ends well has ended well so far, and from there. -/
theorem bind_eq_ok {m : Start α} {f : α → Start β} {b : β} (h : (m >>= f) t = (.ok b, u)) :
    ∃ a v, m t = (.ok a, v) ∧ f a v = (.ok b, u) := by
  rw [bind_apply] at h
  generalize m t = ended at h ⊢
  obtain ⟨result, v⟩ := ended
  cases result with
  | error f => cases h
  | ok a => exact ⟨a, v, rfl, h⟩

theorem onWorld_eq_ok {f : World → Except Failure α × World} {a : α}
    (h : onWorld f t = (.ok a, u)) :
    (f t.world).1 = .ok a ∧ u = { t with world := (f t.world).2 } := by
  unfold onWorld at h
  exact ⟨(Prod.mk.inj h).1, (Prod.mk.inj h).2.symm⟩

theorem negotiate_eq_ok {f : Negotiated → Negotiated} (h : negotiate f t = (.ok (), u)) :
    u.world = t.world ∧ u.negotiated = f t.negotiated := by
  cases h
  exact ⟨rfl, rfl⟩

/-- The gateway is the one in the settings, or one that has answered a search. -/
theorem gateway_eq_ok (bare : t.world.Bare) (h : gateway n settings t = (.ok remote, u)) :
    u = { t with world := u.world } ∧ u.world.Bare ∧ t.world.journal <+: u.world.journal ∧
      (settings.remote = some remote ∨ settings.remote = none ∧
        ∃ description, World.Received (.searchResponse remote description) t.world u.world) := by
  cases known : settings.remote with
  | some known' =>
    rw [gateway, known] at h
    cases h
    exact ⟨rfl, bare, List.prefix_rfl, .inl rfl⟩
  | none =>
    rw [gateway, known] at h
    obtain ⟨g, v, asked, last⟩ := bind_eq_ok h
    obtain ⟨found, rfl⟩ := onWorld_eq_ok asked
    cases last
    obtain ⟨led, still⟩ := World.leads_discover n t.world bare settings
    obtain ⟨since, journal, -⟩ := led.journal
    exact ⟨rfl, still, ⟨since, journal.symm⟩,
      .inr ⟨rfl, g.description, World.received_of_discover n found⟩⟩

theorem onWorld_bind_eq_ok {role : Role} {here : Endpoint} {s : Socket}
    (h : onWorld (·.bind n role here remote) t = (.ok s, u)) :
    s = t.world.nextSocket n role here remote ∧ u = { t with world := t.world.opening s } := by
  obtain ⟨bound, rfl⟩ := onWorld_eq_ok h
  obtain ⟨fault, -, ended⟩ | ⟨-, ended⟩ := World.bind_cases n t.world role here remote
  · rw [ended] at bound
    cases bound
  · rw [ended] at bound ⊢
    cases bound
    exact ⟨rfl, rfl⟩

/-- A socket that is opened for a tunnel sends to the gateway only. -/
theorem belongs_nextSocket (w : World) {role : Role} (here : Endpoint)
    (tunnel : role = .shared ∨ role = .control ∨ role = .data) :
    Belongs remote remote (w.nextSocket n role here remote) := by
  refine ⟨fun channel accepts => ?_, rfl, fun _ => rfl⟩
  change role.accepts channel = true at accepts
  obtain rfl | rfl | rfl := tunnel <;> cases channel <;> simp [Role.accepts] at accepts ⊢

/-- The sockets send to the gateway, and only the one for data takes frames of the data channel. -/
theorem openSockets_eq_ok {control data : Socket} (bare : t.world.Bare)
    (h : openSockets n settings remote t = (.ok (control, data), u)) :
    u = { t with world := u.world } ∧ u.world.Up ∧ t.world.journal <+: u.world.journal ∧
      control.peers = ⟨remote, none⟩ ∧
      ∀ socket ∈ u.world.sockets, Belongs remote remote socket ∧
        (socket.role.accepts .data = true → socket.address = data.address) := by
  unfold openSockets at h
  split at h
  · obtain ⟨shared, v, bound, last⟩ := bind_eq_ok h
    obtain ⟨rfl, rfl⟩ := onWorld_bind_eq_ok bound
    cases last
    let shared := t.world.nextSocket n .shared
      ⟨settings.interfaceTo n remote, settings.control.port⟩ remote
    have sockets : (t.world.opening shared).sockets = [shared] := by
      simp [World.opening, bare.sockets]
    refine ⟨rfl, ?_, List.prefix_rfl, rfl, ?_⟩
    · show ∀ s ∈ (t.world.opening shared).sockets, _
      rw [sockets]
      exact List.forall_mem_singleton.mpr ⟨rfl, rfl⟩
    · show ∀ s ∈ (t.world.opening shared).sockets, _
      rw [sockets]
      exact List.forall_mem_singleton.mpr ⟨belongs_nextSocket _ _ (.inl rfl), fun _ => rfl⟩
  · obtain ⟨control, v, bound, h⟩ := bind_eq_ok h
    obtain ⟨rfl, rfl⟩ := onWorld_bind_eq_ok bound
    obtain ⟨data, v, bound, last⟩ := bind_eq_ok h
    obtain ⟨rfl, rfl⟩ := onWorld_bind_eq_ok bound
    cases last
    let control := t.world.nextSocket n .control
      ⟨settings.interfaceTo n remote, settings.control.port⟩ remote
    let w := t.world.opening control
    let data := w.nextSocket n .data ⟨settings.interfaceTo n remote, settings.data.port⟩ remote
    have sockets : (w.opening data).sockets = [control, data] := by
      simp [w, World.opening, bare.sockets]
    refine ⟨rfl, ?_, List.prefix_rfl, rfl, ?_⟩
    · show ∀ s ∈ (w.opening data).sockets, _
      rw [sockets]
      exact List.forall_mem_cons.mpr ⟨⟨rfl, rfl⟩, List.forall_mem_singleton.mpr ⟨rfl, rfl⟩⟩
    · show ∀ s ∈ (w.opening data).sockets, _
      rw [sockets]
      have toControl : Belongs remote remote control :=
        belongs_nextSocket _ _ (.inr (.inl rfl))
      refine List.forall_mem_cons.mpr ⟨⟨toControl, fun accepts => by cases accepts⟩, ?_⟩
      exact List.forall_mem_singleton.mpr
        ⟨belongs_nextSocket _ _ (.inr (.inr rfl)), fun _ => rfl⟩

/-- The grant is in a response that was received meanwhile. -/
theorem connect_eq_ok {control : Socket} {endpoints : Endpoint × Endpoint} {grant : Grant}
    (up : t.world.Up) (h : connect n settings control endpoints t = (.ok grant, u)) :
    u = { t with world := u.world } ∧ u.world.sockets = t.world.sockets ∧
      u.context.correlator.response? .connect = some grant.response ∧
      World.Received grant.response t.world u.world := by
  obtain ⟨ended, v, asked, last⟩ := bind_eq_ok h
  obtain ⟨accepted, rfl⟩ := onWorld_eq_ok asked
  cases ended with
  | exhausted _ => cases last
  | accepted g =>
    cases last
    have goes := World.goes_repeatRequest n t.world up control
      (b := .connectRequest endpoints.1 endpoints.2 .tunnelLinkLayer) rfl Grant.ofBody
      settings.retries.connect.toNat none
    obtain ⟨k, r, key, good, noted, heard⟩ := World.received_of_repeatRequest n _ accepted
    cases key
    obtain rfl := Grant.eq_response good
    exact ⟨rfl, goes.sockets, noted, heard⟩

/-- From then on frames of the data channel go where the grant says. -/
theorem accept_eq_ok {data : Socket} {grant : Grant}
    (opened : ∀ socket ∈ t.world.sockets, Belongs remote remote socket ∧
      (socket.role.accepts .data = true → socket.address = data.address))
    (h : accept remote data grant t = (.ok (), u)) :
    u.channelId = some grant.channel ∧ u.context.correlator = t.context.correlator ∧
      u.world.journal = t.world.journal ∧
      u.negotiated = { t.negotiated with tunnelAddress := grant.assigned.map (·.address) } ∧
      ∀ socket ∈ u.world.sockets, Belongs remote (grant.peer remote) socket := by
  obtain ⟨channel, announced, assigned⟩ := grant
  cases announced with
  | none =>
    cases h
    exact ⟨rfl, rfl, rfl, rfl, fun socket mem => (opened socket mem).1⟩
  | some endpoint =>
    cases h
    refine ⟨rfl, rfl, rfl, rfl, fun socket mem => ?_⟩
    obtain ⟨before, was, rfl⟩ := List.mem_map.mp mem
    obtain ⟨belongs, alone⟩ := opened before was
    -- A socket that is passed over here takes no frames of the data channel.
    split
    · exact ⟨belongs.tunnel, belongs.main, fun _ => rfl⟩
    · next elsewhere =>
      exact ⟨belongs.tunnel, belongs.main, fun accepts => absurd (alone accepts) elsewhere⟩

theorem keepWatch_eq_ok {control : Socket} {endpoint : Endpoint}
    (h : keepWatch n settings control endpoint t = (.ok (), u)) :
    ∃ watch, u = { t with monitor := some ⟨control, endpoint, watch⟩ } := by
  obtain ⟨s, v, got, h⟩ := bind_eq_ok h
  cases got
  cases begun : n.watchRefusal t.world.opened with
  | some fault =>
    rw [begun] at h
    cases h
  | none =>
    rw [begun] at h
    cases h
    exact ⟨_, rfl⟩

end Start

open Start

/-- A tunnel was granted since there was this world, and the session goes by the grant. -/
structure Granted (remote : Endpoint) (grant : Grant) (w : World) (u : Session) : Prop where
  channelId : u.channelId = some grant.channel
  gateway : u.negotiated.remote = some remote
  tunnelAddress : u.negotiated.tunnelAddress = grant.assigned.map (·.address)
  response : u.context.correlator.response? .connect = some grant.response
  received : World.Received grant.response w u.world
  fits : u.Fits (Towards remote (grant.peer remote))

variable {n : Network} {settings : Settings} {remote : Endpoint} {s t u : Session}

theorem granted_of_openTunnel (bare : t.world.Bare) (known : t.negotiated.remote = some remote)
    (h : openTunnel n settings remote t = (.ok (), u)) :
    ∃ grant, Granted remote grant t.world u := by
  obtain ⟨⟨control, data⟩, v, bound, h⟩ := bind_eq_ok h
  obtain ⟨same, up, grown, peers, opened⟩ := openSockets_eq_ok bare bound
  obtain ⟨_, w, noted, h⟩ := bind_eq_ok h
  obtain ⟨world, announced⟩ := negotiate_eq_ok noted
  rw [← world] at up grown opened
  obtain ⟨grant, x, asked, h⟩ := bind_eq_ok h
  obtain ⟨same', sockets, response, heard⟩ := connect_eq_ok up asked
  obtain ⟨_, y, accepted, h⟩ := bind_eq_ok h
  rw [← sockets] at opened
  obtain ⟨channelId, correlator, journal, negotiated, belongs⟩ := accept_eq_ok opened accepted
  obtain ⟨watch, rfl⟩ := keepWatch_eq_ok h
  refine ⟨grant, channelId, ?_, ?_, ?_, ?_, ?_, ?_⟩
  · show y.negotiated.remote = _
    rw [negotiated, same']
    show w.negotiated.remote = _
    rw [announced, same]
    exact known
  · show y.negotiated.tunnelAddress = _
    rw [negotiated]
  · show y.context.correlator.response? .connect = _
    rw [correlator]
    exact response
  · have after : x.world.journal <+: y.world.journal := journal ▸ List.prefix_rfl
    exact heard.widen grown after
  · exact fun socket mem b accepts => (belongs socket mem).towards accepts
  · rintro m watched channel endpoint
    cases watched
    exact .inl ⟨rfl, by rw [peers]; rfl⟩

theorem granted_of_tunneling (bare : t.world.Bare) (h : tunneling n t = (.ok (), u)) :
    ∃ remote grant, Granted remote grant t.world u ∧
      (t.settings.remote = some remote ∨ t.settings.remote = none ∧ ∃ description,
        World.Received (.searchResponse remote description) t.world u.world) := by
  obtain ⟨_, _, got, h⟩ := bind_eq_ok h
  cases got
  obtain ⟨remote, v, asked, h⟩ := bind_eq_ok h
  obtain ⟨-, bare, grown, found⟩ := gateway_eq_ok bare asked
  obtain ⟨_, w, noted, h⟩ := bind_eq_ok h
  obtain ⟨world, known⟩ := negotiate_eq_ok noted
  obtain ⟨description, x, described, h⟩ := bind_eq_ok h
  obtain ⟨-, rfl⟩ := onWorld_eq_ok described
  rw [← world] at bare grown found
  obtain ⟨led, bare⟩ := World.leads_describeForTunneling n w.world bare t.settings remote
  obtain ⟨since, journal, -⟩ := led.journal
  obtain ⟨_, y, noted, h⟩ := bind_eq_ok h
  obtain ⟨world', known'⟩ := negotiate_eq_ok noted
  have known : y.negotiated.remote = some remote := by
    rw [known']
    show w.negotiated.remote = _
    rw [known]
  obtain ⟨grant, granted⟩ := granted_of_openTunnel (world' ▸ bare) known h
  have asked : w.world.journal <+: y.world.journal := ⟨since, by rw [world']; exact journal.symm⟩
  have later := granted.received.journal
  have heard := granted.received.widen (grown.trans asked) List.prefix_rfl
  refine ⟨remote, grant, ⟨granted.channelId, granted.gateway, granted.tunnelAddress,
    granted.response, heard, granted.fits⟩, ?_⟩
  refine found.imp id fun ⟨unknown, description, heard⟩ => ⟨unknown, description, ?_⟩
  exact heard.widen List.prefix_rfl (asked.trans later)

/-- If a start in tunneling mode ends well, the session goes by a grant that it has received since,
and the gateway is the one in the settings or one that has answered a search. -/
theorem granted_of_start (down : s.Down) (mode : s.settings.mode = .tunneling)
    (started : (s.start n).1 = .ok ()) :
    ∃ remote grant, Granted remote grant s.world (s.start n).2 ∧
      (s.settings.remote = some remote ∨ s.settings.remote = none ∧ ∃ description,
        World.Received (.searchResponse remote description) s.world (s.start n).2.world) := by
  cases starts_of_down n down with
  | fails t f services begins closable result =>
    rw [result] at started
    cases started
  | runs t services begins live result =>
    have bare : s.prepare.world.Bare := ⟨down.sockets, rfl⟩
    have ran : tunneling n s.prepare = (.ok (), t) := by
      obtain ⟨_, _, got, h⟩ := bind_eq_ok services
      cases got
      dsimp only at h
      cases valid : s.prepare.settings.validate with
      | error f =>
        rw [valid] at h
        cases h
      | ok _ =>
        rw [valid, show s.prepare.settings.mode = .tunneling from mode] at h
        exact h
    obtain ⟨remote, grant, granted, found⟩ := granted_of_tunneling bare ran
    have before : s.world.journal <+: s.prepare.world.journal := List.prefix_append ..
    have after : t.world.journal <+: (s.start n).2.world.journal := by
      rw [result]
      exact List.prefix_append ..
    refine ⟨remote, grant, ?_, ?_⟩
    · have heard := granted.received.widen before after
      rw [result] at heard ⊢
      exact ⟨granted.channelId, granted.gateway, granted.tunnelAddress, granted.response, heard,
        granted.fits.sockets, granted.fits.monitor⟩
    · exact found.imp id fun ⟨unknown, description, heard⟩ =>
        ⟨unknown, description, heard.widen before after⟩

end Session
end KnxIp
