/-
  Two sessions that start alike.

  `Start.Matches` relates a step of a session with a past to the same step of a session that begins,
  when the network treats both alike: they end with the same result and leave sessions that are
  alike (`Session.Alike`). What is left of the last connection in the other fields of what was
  negotiated must not matter; the relations before and behind a step say how far both agree in them.
  Main statements: the services of a start match (`matches_services`), and so does a start as a
  whole, which ends with the same negotiated if it succeeds (`agrees_start`).
-/
import KnxIp.Proofs.Network.Likeness
import KnxIp.Proofs.Session.Progress

namespace KnxIp.Session

/-- A session with a past, and one that begins, which have gone on alike. -/
structure Alike (past : World) (q : StatusPool) (s t : Session) : Prop where
  settings : s.settings = t.settings
  sequence : s.sequence = t.sequence
  phase : s.phase = t.phase
  closed : s.closed = t.closed
  control : s.negotiated.control = t.negotiated.control
  data : s.negotiated.data = t.negotiated.data
  monitor : s.monitor = t.monitor
  world : World.Alike past q s.world t.world

variable {past : World} {q : StatusPool} {s t : Session}

theorem Alike.withWorld (h : Alike past q s t) {w v : World} (world : World.Alike past q w v) :
    Alike past q { s with world := w } { t with world := v } :=
  ⟨h.settings, h.sequence, h.phase, h.closed, h.control, h.data, h.monitor, world⟩

theorem Alike.enter (h : Alike past q s t) (phase : SessionPhase) :
    Alike past q (s.enter phase) (t.enter phase) :=
  ⟨h.settings, h.sequence, rfl, h.closed, h.control, h.data, h.monitor, h.world.note _⟩

theorem Alike.notify (h : Alike past q s t) (e : Event) :
    Alike past q (s.withContext (·.notify e)) (t.withContext (·.notify e)) :=
  h.withWorld (h.world.withContext
    ⟨h.world.context.correlator, h.world.context.channelId, h.world.context.lastSequence,
      h.world.context.status⟩)

namespace Start

variable {α β : Type}

/-- How far two sessions agree in what was negotiated. -/
abbrev Agreement := Negotiated → Negotiated → Prop

/-- The gateway and its description are the same. -/
def SameGateway : Agreement := fun g g' => g.remote = g'.remote ∧ g.description = g'.description

/-- What only a tunnel has is the same. -/
def SameTunnel : Agreement := fun g g' =>
  g.description = g'.description ∧ g.tunnelAddress = g'.tunnelAddress

/-- Two steps have ended with the same result, and in sessions that are alike; and if they have
ended well, the sessions agree. -/
structure Agrees (past : World) (q : StatusPool) (Q : Agreement)
    (x y : Except Failure α × Session) : Prop where
  result : x.1 = y.1
  session : Alike past q x.2 y.2
  negotiated : ∀ a, x.1 = .ok a → Q x.2.negotiated y.2.negotiated

/-- From sessions that are alike and agree to this extent, the two steps end alike. -/
def Matches (past : World) (q : StatusPool) (m m' : Start α) (P Q : Agreement) : Prop :=
  ∀ s t, Alike past q s t → P s.negotiated t.negotiated → Agrees past q Q (m s) (m' t)

namespace Matches

variable {P Q R : Agreement} {m m' : Start α}

theorem bind {f f' : α → Start β} (first : Matches past q m m' P Q)
    (next : ∀ a, Matches past q (f a) (f' a) Q R) :
    Matches past q (m >>= f) (m' >>= f') P R := by
  intro s t alike agreed
  obtain ⟨result, session, negotiated⟩ := first s t alike agreed
  rw [bind_apply, bind_apply]
  generalize m s = x at result session negotiated ⊢
  generalize m' t = y at result session negotiated ⊢
  obtain ⟨r, s⟩ := x
  obtain ⟨r', t⟩ := y
  obtain rfl : r = r' := result
  cases r with
  | error f => exact ⟨rfl, session, nofun⟩
  | ok a => exact next a s t session (negotiated a rfl)

theorem pure (a : α) : Matches past q (Pure.pure a) (Pure.pure a) P P :=
  fun _ _ alike agreed => ⟨rfl, alike, fun _ _ => agreed⟩

theorem throw (f : Failure) : Matches past q (throw f : Start α) (throw f) P Q :=
  fun _ _ alike _ => ⟨rfl, alike, nofun⟩

theorem modify {f : Session → Session}
    (h : ∀ s t, Alike past q s t → P s.negotiated t.negotiated →
      Alike past q (f s) (f t) ∧ Q (f s).negotiated (f t).negotiated) :
    Matches past q (modify f) (modify f) P Q := by
  intro s t alike agreed
  obtain ⟨after, agree⟩ := h s t alike agreed
  exact ⟨rfl, after, fun _ _ => agree⟩

/-- A step that looks at the session. -/
theorem get_bind {f f' : Session → Start α}
    (h : ∀ s t, Alike past q s t → P s.negotiated t.negotiated →
      Agrees past q Q (f s s) (f' t t)) :
    Matches past q (get >>= f) (get >>= f') P Q := by
  intro s t alike agreed
  rw [bind_apply, bind_apply]
  exact h s t alike agreed

/-- What was negotiated does not change. -/
theorem onWorld {f g : World → Except Failure α × World}
    (h : ∀ w v, World.Alike past q w v → World.Matches past q (f w) (g v)) :
    Matches past q (onWorld f) (onWorld g) P P := by
  intro s t alike agreed
  unfold Start.onWorld
  refine (h _ _ alike.world).elim fun r w v world => ?_
  exact ⟨rfl, alike.withWorld world, fun _ _ => agreed⟩

theorem negotiate {f : Negotiated → Negotiated}
    (h : ∀ g g', g.control = g'.control → g.data = g'.data → P g g' →
      (f g).control = (f g').control ∧ (f g).data = (f g').data ∧ Q (f g) (f g')) :
    Matches past q (negotiate f) (negotiate f) P Q := by
  refine .modify fun s t alike agreed => ?_
  obtain ⟨control, data, agree⟩ := h _ _ alike.control alike.data agreed
  exact ⟨⟨alike.settings, alike.sequence, alike.phase, alike.closed, control, data, alike.monitor,
    alike.world⟩, agree⟩

end Matches

/-! ## The steps -/

variable (n : Network) {P : Agreement}

theorem matches_bind (role : Role) (here peer : Endpoint) :
    Matches past q (onWorld (·.bind n role here peer))
      (onWorld (·.bind (n.since past) role here peer)) P P :=
  .onWorld fun _ _ alike => alike.bind n role here peer

/-- Beside the group nothing is negotiated. -/
theorem matches_routing :
    Matches past q (routing n) (routing (n.since past))
      SameTunnel Eq := by
  unfold routing
  refine .get_bind fun s t alike agreed => ?_
  rw [alike.settings]
  refine Matches.bind (Q := SameTunnel) (matches_bind n .routing _ _) (fun _ => .negotiate ?_) s t
    alike agreed
  rintro ⟨_, _, _, _, _⟩ ⟨_, _, _, _, _⟩ rfl rfl ⟨rfl, rfl⟩
  exact ⟨rfl, rfl, rfl⟩

theorem matches_gateway (settings : Settings) :
    Matches past q (gateway n settings) (gateway (n.since past) settings) P P := by
  unfold gateway
  split
  · exact .pure _
  · exact Matches.bind (.onWorld fun _ _ alike => alike.discover n settings) fun g =>
      .pure g.control

theorem matches_openSockets (settings : Settings) (remote : Endpoint) :
    Matches past q (openSockets n settings remote) (openSockets (n.since past) settings remote)
      P P := by
  unfold openSockets
  rw [show settings.interfaceTo (n.since past) remote = settings.interfaceTo n remote from rfl]
  dsimp only
  split
  · exact (matches_bind n .shared _ _).bind fun shared => .pure (shared, shared)
  · refine (matches_bind n .control _ _).bind fun control => ?_
    exact (matches_bind n .data _ _).bind fun data => .pure (control, data)

theorem matches_connect (settings : Settings) (control : Socket)
    (endpoints : Endpoint × Endpoint) :
    Matches past q (connect n settings control endpoints)
      (connect (n.since past) settings control endpoints) P P := by
  unfold connect
  refine Matches.bind
    (.onWorld fun _ _ alike => alike.repeatRequest n control _ Grant.ofBody _ none) fun ended => ?_
  cases ended with
  | accepted grant => exact .pure grant
  | exhausted last => exact .throw _

/-- The address of the tunnel is negotiated anew. -/
theorem matches_accept (remote : Endpoint) (data : Socket) (grant : Grant) :
    Matches past q (accept remote data grant) (accept remote data grant)
      SameGateway Eq := by
  unfold accept
  have noted : Matches past q
      (negotiate fun g => { g with tunnelAddress := grant.assigned.map (·.address) })
      (negotiate fun g => { g with tunnelAddress := grant.assigned.map (·.address) })
      SameGateway Eq := by
    refine .negotiate ?_
    rintro ⟨_, _, _, _, _⟩ ⟨_, _, _, _, _⟩ rfl rfl ⟨rfl, rfl⟩
    exact ⟨rfl, rfl, rfl⟩
  refine Matches.bind (Q := SameGateway) (.modify fun s t alike agreed => ⟨?_, agreed⟩) fun _ => ?_
  · exact alike.withWorld (alike.world.withContext
      (alike.world.context.withConnection rfl alike.world.context.lastSequence))
  · split
    · refine Matches.bind (Q := SameGateway) (.modify fun s t alike agreed => ⟨?_, agreed⟩)
        fun _ => noted
      exact alike.withWorld (alike.world.setSocket data.address _)
    · exact noted

theorem matches_keepWatch (settings : Settings) (control : Socket) (endpoint : Endpoint) :
    Matches past q (keepWatch n settings control endpoint)
      (keepWatch (n.since past) settings control endpoint) P P := by
  unfold keepWatch
  refine .get_bind fun s t alike agreed => ?_
  have refusal : (n.since past).watchRefusal t.world.opened = n.watchRefusal s.world.opened := by
    rw [alike.world.opened]
    rfl
  dsimp only
  rw [refusal]
  cases n.watchRefusal s.world.opened with
  | some fault => exact Matches.throw (P := P) _ s t alike agreed
  | none =>
    exact ⟨rfl, ⟨alike.settings, alike.sequence, alike.phase, alike.closed, alike.control,
      alike.data, rfl, alike.world⟩, fun _ _ => agreed⟩

theorem matches_openTunnel (settings : Settings) (remote : Endpoint) :
    Matches past q (openTunnel n settings remote) (openTunnel (n.since past) settings remote)
      SameGateway Eq := by
  unfold openTunnel
  refine (matches_openSockets n settings remote).bind fun sockets => ?_
  refine Matches.bind (Q := SameGateway) (.negotiate fun g g' _ _ agreed => ⟨rfl, rfl, agreed⟩)
    fun _ => ?_
  refine (matches_connect n settings _ _).bind fun grant => ?_
  exact (matches_accept remote _ grant).bind fun _ => matches_keepWatch n settings _ _

/-- Whatever is left of the last tunnel is negotiated anew. -/
theorem matches_tunneling :
    Matches past q (tunneling n) (tunneling (n.since past)) (fun _ _ => True) Eq := by
  unfold tunneling
  refine .get_bind fun s t alike agreed => ?_
  rw [alike.settings]
  refine Matches.bind (Q := fun _ _ => True) (matches_gateway n t.settings) (fun remote => ?_) s t
    alike agreed
  refine Matches.bind (Q := fun g g' => g.remote = g'.remote)
    (.negotiate fun g g' control data _ => ⟨control, data, rfl⟩) fun _ => ?_
  refine Matches.bind (.onWorld fun _ _ alike => alike.describeForTunneling n t.settings remote)
    fun description => ?_
  exact Matches.bind (.negotiate fun g g' control data same => ⟨control, data, same, rfl⟩)
    fun _ => matches_openTunnel n t.settings remote

/-- Whatever the network does, the services of a start end alike. -/
theorem matches_services (alike : Alike past q s t)
    (agreed : s.settings.mode = .routing → SameTunnel s.negotiated t.negotiated) :
    Agrees past q Eq (services n s) (services (n.since past) t) := by
  unfold services
  rw [bind_apply, bind_apply, get_apply, get_apply]
  dsimp only
  rw [← alike.settings]
  cases s.settings.validate with
  | error f => exact ⟨rfl, alike, nofun⟩
  | ok _ =>
    dsimp only
    cases mode : s.settings.mode with
    | routing => exact matches_routing n s t alike (agreed mode)
    | tunneling => exact matches_tunneling n s t alike trivial

end Start

/-! ## A start as a whole -/

variable (n : Network)

theorem alike_disconnectHeld (h : Alike past q s t) :
    Alike past q (s.disconnectHeld n) (t.disconnectHeld (n.since past)) := by
  have socketFor : s.socketFor .control = t.socketFor .control := by
    rw [Session.socketFor, h.world.sockets]
    rfl
  have channelId : s.channelId = t.channelId := h.world.context.channelId
  unfold disconnectHeld
  rw [← channelId, ← h.world.context.correlator]
  split
  · exact h
  · split
    · exact h
    · unfold disconnect
      rw [← socketFor, ← h.control]
      split
      · exact h
      · exact h.withWorld (h.world.request n ..).world

theorem alike_close (h : Alike past q s t) :
    Alike past q (s.close n) (t.close (n.since past)) := by
  unfold close
  rw [← h.closed]
  split
  · exact h
  · have closing : Alike past q ({ s with closed := true, monitor := none }.enter .stopRequested)
        ({ t with closed := true, monitor := none }.enter .stopRequested) :=
      ⟨h.settings, h.sequence, rfl, rfl, h.control, h.data, rfl, h.world.note _⟩
    have parted := alike_disconnectHeld n closing
    have released : Alike past q (release _) (release _) :=
      ⟨parted.settings, parted.sequence, parted.phase, parted.closed, rfl, rfl, parted.monitor,
        parted.world.context.withConnection rfl parted.world.context.lastSequence, rfl,
        parted.world.journal, parted.world.opened⟩
    exact (released.enter _).notify _

/-- What only a tunnel has was never negotiated. -/
def Tunnelless (s : Session) : Prop :=
  s.negotiated.description = none ∧ s.negotiated.tunnelAddress = none

/-- A session of which nothing is left starts as a new one does. -/
theorem agrees_start (down : s.Down) (clean : s.settings.mode = .routing → s.Tunnelless)
    (context : Context) :
    Start.Agrees s.world context.status Eq (s.start n)
      ((Session.new s.settings context).start (n.since s.world)) := by
  have alike : Alike s.world context.status s.prepare (Session.new s.settings context).prepare :=
    ⟨rfl, rfl, rfl, rfl, down.control, down.data, down.monitor, ⟨rfl, rfl, rfl, [], rfl, rfl⟩,
      down.sockets, rfl, rfl⟩
  obtain ⟨result, session, negotiated⟩ := Start.matches_services n alike clean
  have begins : (Session.new s.settings context).phase = .notStarted := rfl
  unfold start
  rw [if_neg (not_not_intro down.phase), if_neg (not_not_intro begins)]
  generalize Start.services n s.prepare = x at result session negotiated ⊢
  generalize Start.services (n.since s.world) _ = y at result session negotiated ⊢
  obtain ⟨r, u⟩ := x
  obtain ⟨r', v⟩ := y
  obtain rfl : r = r' := result
  cases r with
  | error f => exact ⟨rfl, alike_close n session, nofun⟩
  | ok _ => exact ⟨rfl, (session.enter _).notify _, negotiated⟩

end KnxIp.Session
