/-
  What the steps of a start lead to.

  `Start.Ensures` relates the session before a step to the one after it, for steps that end well
  and for steps that fail; `Ensures.bind` puts steps together. Main statement: whatever the network
  does, the services of a start either run, with the sockets of the mode open and a channel held
  just when tunneling, or fail and leave a session that can be closed (`ensures_services`).
-/
import KnxIp.Session.Basic
import KnxIp.Proofs.Network.Progress

namespace KnxIp.Session

/-- What the sockets are used for, in the order of their opening. -/
def roles (s : Session) : List Role := s.world.sockets.map (·.role)

/-- The sockets of a tunnel; behind an address translator they are one. -/
def tunnelRoles (settings : Settings) : List Role :=
  if settings.nat then [.shared] else [.control, .data]

/-- The second session has come about from the first one while starting. -/
structure Begins (s t : Session) : Prop where
  world : s.world.Leads t.world
  settings : t.settings = s.settings
  phase : t.phase = s.phase
  closed : t.closed = s.closed

/-- So far has a start got: sockets for these uses are open, and there is no channel yet. -/
structure Reaches (s : Session) (roles : List Role) (t : Session) : Prop where
  begins : s.Begins t
  up : t.world.Up
  roles : t.roles = roles
  channelId : t.channelId = none

/-- The session is joined to the multicast group. -/
structure Routes (s : Session) : Prop where
  mode : s.settings.mode = .routing
  roles : s.roles = [.routing]
  channelId : s.channelId = none

/-- The session holds a tunnel. -/
structure Tunnels (s : Session) : Prop where
  mode : s.settings.mode = .tunneling
  roles : s.roles = tunnelRoles s.settings
  channelId : s.channelId.isSome = true
  control : s.negotiated.control.isSome = true
  data : s.negotiated.data.isSome = true
  monitor : s.monitor.isSome = true

/-- The session can be closed in order: if it holds a channel, it has a socket to say so. -/
structure Closable (s : Session) : Prop where
  up : s.world.Up
  roles : s.channelId ≠ none → s.roles = tunnelRoles s.settings

namespace Begins

theorem refl (s : Session) : s.Begins s := ⟨.refl _, rfl, rfl, rfl⟩

theorem trans {s t u : Session} (h : s.Begins t) (k : t.Begins u) : s.Begins u :=
  ⟨h.world.trans k.world, k.settings.trans h.settings, k.phase.trans h.phase,
    k.closed.trans h.closed⟩

theorem withWorld {s t : Session} (h : s.Begins t) {w : World} (led : t.world.Leads w) :
    s.Begins { t with world := w } :=
  h.trans ⟨led, rfl, rfl, rfl⟩

end Begins

theorem Reaches.closable {s t : Session} {roles : List Role} (h : s.Reaches roles t) :
    t.Closable :=
  ⟨h.up, fun held => absurd h.channelId held⟩

theorem Reaches.bare {s t : Session} (h : s.Reaches [] t) : t.world.Bare :=
  ⟨List.map_eq_nil_iff.mp h.roles, h.channelId⟩

theorem reaches_of_bare {s t : Session} (begins : s.Begins t) (bare : t.world.Bare) :
    s.Reaches [] t :=
  ⟨begins, by simp [World.Up, bare.sockets], List.map_eq_nil_iff.mpr bare.sockets,
    bare.channelId⟩

namespace Start

variable {α β : Type}

/-- From a session with `P`, the step ends well with `Q`, or fails with `E`. -/
def Ensures (m : Start α) (P : Session → Prop) (Q : α → Session → Prop) (E : Session → Prop) :
    Prop :=
  ∀ s, P s → match m s with
    | (.ok a, t) => Q a t
    | (.error _, t) => E t

theorem get_apply (s : Session) : (get : Start Session) s = (.ok s, s) := rfl

theorem bind_apply (m : Start α) (f : α → Start β) (s : Session) :
    (m >>= f) s = match m s with
      | (.ok a, t) => f a t
      | (.error e, t) => (.error e, t) := by
  show ExceptT.bindCont f (m s).1 (m s).2 = _
  generalize m s = ended
  obtain ⟨result, t⟩ := ended
  cases result <;> rfl

namespace Ensures

variable {P : Session → Prop} {Q : α → Session → Prop} {E : Session → Prop}

theorem bind {m : Start α} {f : α → Start β} {R : β → Session → Prop} (first : Ensures m P Q E)
    (next : ∀ a, Ensures (f a) (Q a) R E) : Ensures (m >>= f) P R E := by
  intro s hs
  have ended := first s hs
  rw [bind_apply]
  generalize m s = result at ended ⊢
  obtain ⟨result, t⟩ := result
  cases result with
  | error e => exact ended
  | ok a => exact next a t ended

/-- Less may be asked for afterwards. -/
theorem mono {m : Start α} {Q' : α → Session → Prop} (h : Ensures m P Q E)
    (post : ∀ a s, Q a s → Q' a s) : Ensures m P Q' E := by
  intro s hs
  have ended := h s hs
  generalize m s = result at ended ⊢
  obtain ⟨result, t⟩ := result
  cases result with
  | error e => exact ended
  | ok a => exact post a t ended

/-- The session before the step may be known. -/
theorem of_known {m : Start α} {s : Session} (h : Ensures m P Q E) (hs : P s) :
    Ensures m (· = s) Q E :=
  fun _ same => same ▸ h s hs

theorem pure {a : α} (h : ∀ s, P s → Q a s) : Ensures (Pure.pure a) P Q E := h

theorem modify {f : Session → Session} {Q : Session → Prop} (h : ∀ s, P s → Q (f s)) :
    Ensures (modify f) P (fun _ => Q) E := h

theorem throw {f : Failure} (h : ∀ s, P s → E s) : Ensures (throw f) P Q E := h

/-- A step that looks at the session. -/
theorem get_bind {f : Session → Start α} (h : ∀ s, P s → Ensures (f s) (· = s) Q E) :
    Ensures (get >>= f) P Q E := by
  intro s hs
  rw [bind_apply]
  exact h s hs s rfl

theorem onWorld {f : World → Except Failure α × World}
    (h : ∀ s, P s → match f s.world with
      | (.ok a, w) => Q a { s with world := w }
      | (.error _, w) => E { s with world := w }) : Ensures (onWorld f) P Q E := by
  intro s hs
  have ended := h s hs
  unfold Start.onWorld
  generalize f s.world = result at ended ⊢
  obtain ⟨result, w⟩ := result
  cases result <;> exact ended

end Ensures

/-! ## The steps -/

variable (n : Network) (s : Session)

/-- A failed start can be closed in order. -/
def Fails (t : Session) : Prop := s.Begins t ∧ t.Closable

/-- A procedure with a socket of its own. -/
theorem ensures_procedure {f : World → Except Failure α × World}
    (led : ∀ w : World, w.Bare → w.Leads (f w).2 ∧ (f w).2.Bare) :
    Ensures (onWorld f) (s.Reaches []) (fun _ => s.Reaches []) (Fails s) := by
  refine .onWorld fun t reached => ?_
  obtain ⟨led, bare⟩ := led t.world reached.bare
  have after := reaches_of_bare (t := { t with world := (f t.world).2 })
    (reached.begins.withWorld led) bare
  generalize f t.world = result at after ⊢
  obtain ⟨result, w⟩ := result
  cases result with
  | ok a => exact after
  | error e => exact ⟨after.begins, after.closable⟩

theorem ensures_gateway (settings : Settings) :
    Ensures (gateway n settings) (s.Reaches []) (fun _ => s.Reaches []) (Fails s) := by
  unfold gateway
  split
  · exact .pure fun _ h => h
  · exact (ensures_procedure s (World.leads_discover n · · settings)).bind
      fun _ => .pure fun _ h => h

theorem ensures_bind (roles : List Role) (role : Role) (here peer : Endpoint) :
    Ensures (onWorld (·.bind n role here peer)) (s.Reaches roles)
      (fun _ => s.Reaches (roles ++ [role])) (Fails s) := by
  refine .onWorld fun t reached => ?_
  obtain ⟨fault, -, ended⟩ | ⟨-, ended⟩ := World.bind_cases n t.world role here peer
  · rw [ended]
    exact ⟨reached.begins, reached.closable⟩
  · rw [ended]
    refine ⟨reached.begins.withWorld (World.leads_opening ..), ?_, ?_, reached.channelId⟩
    · intro socket h
      rcases List.mem_append.mp h with h | h
      · exact reached.up socket h
      · rw [List.mem_singleton.mp h]
        exact ⟨rfl, rfl⟩
    · show List.map _ (t.world.sockets ++ [_]) = _
      rw [List.map_append, ← reached.roles]
      rfl

theorem ensures_openSockets (settings : Settings) (remote : Endpoint) :
    Ensures (openSockets n settings remote) (s.Reaches [])
      (fun _ => s.Reaches (tunnelRoles settings)) (Fails s) := by
  unfold openSockets tunnelRoles
  dsimp only
  split
  · exact (ensures_bind n s [] .shared _ _).bind fun _ => .pure fun _ h => h
  · refine (ensures_bind n s [] .control _ _).bind fun _ => ?_
    exact (ensures_bind n s [.control] .data _ _).bind fun _ => .pure fun _ h => h

/-- The sockets of the tunnel are open, and their endpoints are known. -/
structure Announces (t : Session) : Prop where
  reaches : s.Reaches (tunnelRoles s.settings) t
  control : t.negotiated.control.isSome = true
  data : t.negotiated.data.isSome = true

/-- The channel is held. -/
structure Holds (t : Session) : Prop where
  begins : s.Begins t
  up : t.world.Up
  roles : t.roles = tunnelRoles s.settings
  channelId : t.channelId.isSome = true
  control : t.negotiated.control.isSome = true
  data : t.negotiated.data.isSome = true

theorem ensures_connect (settings : Settings) (control : Socket)
    (endpoints : Endpoint × Endpoint) :
    Ensures (connect n settings control endpoints) (Announces s) (fun _ => Announces s)
      (Fails s) := by
  unfold connect
  refine Ensures.bind (Q := fun _ => Announces s) (.onWorld fun t announced => ?_) fun ended => ?_
  · have reached := announced.reaches
    have goes := World.goes_repeatRequest n t.world reached.up control
      (b := .connectRequest endpoints.1 endpoints.2 .tunnelLinkLayer) rfl Grant.ofBody
      settings.retries.connect.toNat none
    have after : s.Reaches (tunnelRoles s.settings) { t with world := _ } :=
      ⟨reached.begins.withWorld (goes.leads reached.channelId), goes.up reached.up,
        (congrArg _ goes.sockets).trans reached.roles,
        goes.keeps.channelId.trans reached.channelId⟩
    generalize World.repeatRequest n control _ Grant.ofBody _ none t.world = result at after ⊢
    obtain ⟨result, w⟩ := result
    cases result with
    | ok a => exact ⟨after, announced.control, announced.data⟩
    | error e => exact ⟨after.begins, after.closable⟩
  · cases ended with
    | accepted grant => exact .pure fun _ h => h
    | exhausted last => exact .throw fun t h => ⟨h.reaches.begins, h.reaches.closable⟩

/-- Other peers for a socket. -/
theorem holds_setPeers {t : Session} (h : Holds s t) (address : Endpoint) (f : Peers → Peers) :
    Holds s { t with world := t.world.setSocket address fun socket =>
      { socket with peers := f socket.peers } } := by
  refine ⟨h.begins.withWorld ⟨rfl, rfl, rfl, [], (List.append_nil _).symm, rfl, rfl⟩, ?_, ?_,
    h.channelId, h.control, h.data⟩
  · intro socket mem
    obtain ⟨before, was, rfl⟩ := List.mem_map.mp mem
    split <;> exact h.up before was
  · rw [← h.roles]
    show List.map _ (List.map _ _) = _
    rw [List.map_map]
    refine List.map_congr_left fun socket _ => ?_
    show Socket.role (if _ then _ else _) = _
    split <;> rfl

theorem ensures_accept (remote : Endpoint) (data : Socket) (grant : Grant) :
    Ensures (accept remote data grant) (Announces s) (fun _ => Holds s) (Fails s) := by
  unfold accept
  refine Ensures.bind (Q := fun _ => Holds s) (.modify fun t announced => ?_) fun _ => ?_
  · have reached := announced.reaches
    exact ⟨reached.begins.trans ⟨⟨rfl, rfl, rfl, [], (List.append_nil _).symm, rfl, rfl⟩,
      rfl, rfl, rfl⟩, reached.up, reached.roles, rfl, announced.control, announced.data⟩
  · have noted : Ensures (negotiate fun g =>
        { g with tunnelAddress := grant.assigned.map (·.address) })
        (Holds s) (fun _ => Holds s) (Fails s) :=
      .modify fun t h => ⟨h.begins.trans ⟨.refl _, rfl, rfl, rfl⟩, h.up, h.roles, h.channelId,
        h.control, h.data⟩
    split
    · refine Ensures.bind (Q := fun _ => Holds s) (.modify fun t h => ?_) fun _ => noted
      exact holds_setPeers s h data.address fun peers => { peers with data := some _ }
    · exact noted

theorem ensures_keepWatch (settings : Settings) (control : Socket) (endpoint : Endpoint) :
    Ensures (keepWatch n settings control endpoint) (Holds s)
      (fun _ t => Holds s t ∧ t.monitor.isSome = true) (Fails s) := by
  unfold keepWatch
  refine .get_bind fun t held => ?_
  refine .of_known ?_ held
  split
  · exact .throw fun _ h => ⟨h.begins, h.up, fun _ => h.begins.settings ▸ h.roles⟩
  · refine .modify fun _ h => ⟨⟨?_, h.up, h.roles, h.channelId, h.control, h.data⟩, rfl⟩
    exact h.begins.trans ⟨.refl _, rfl, rfl, rfl⟩

/-- Something is noted that the rest of a start does not look at. -/
theorem ensures_negotiate (roles : List Role) (f : Negotiated → Negotiated) :
    Ensures (negotiate f) (s.Reaches roles) (fun _ => s.Reaches roles) (Fails s) :=
  .modify fun _ h => ⟨h.begins.trans ⟨.refl _, rfl, rfl, rfl⟩, h.up, h.roles, h.channelId⟩

theorem ensures_openTunnel (remote : Endpoint) :
    Ensures (openTunnel n s.settings remote) (s.Reaches [])
      (fun _ t => Holds s t ∧ t.monitor.isSome = true) (Fails s) := by
  unfold openTunnel
  refine (ensures_openSockets n s s.settings remote).bind fun sockets => ?_
  refine Ensures.bind (Q := fun _ => Announces s) (.modify fun t h => ?_) fun _ => ?_
  · exact ⟨⟨h.begins.trans ⟨.refl _, rfl, rfl, rfl⟩, h.up, h.roles, h.channelId⟩, rfl, rfl⟩
  refine (ensures_connect n s s.settings _ _).bind fun grant => ?_
  exact (ensures_accept s remote _ grant).bind fun _ => ensures_keepWatch n s s.settings _ _

theorem ensures_tunneling :
    Ensures (tunneling n) (s.Reaches []) (fun _ t => Holds s t ∧ t.monitor.isSome = true)
      (Fails s) := by
  unfold tunneling
  refine .get_bind fun t reached => ?_
  rw [reached.begins.settings]
  refine ((ensures_gateway n s s.settings).of_known reached).bind fun remote => ?_
  refine (ensures_negotiate s [] _).bind fun _ => ?_
  refine (ensures_procedure s
    (World.leads_describeForTunneling n · · s.settings remote)).bind fun description => ?_
  exact (ensures_negotiate s [] _).bind fun _ => ensures_openTunnel n s remote

theorem ensures_routing :
    Ensures (routing n) (s.Reaches []) (fun _ => s.Reaches [.routing]) (Fails s) := by
  unfold routing
  refine .get_bind fun t reached => ?_
  exact ((ensures_bind n s [] .routing _ _).of_known reached).bind
    fun _ => ensures_negotiate s [.routing] _

/-- Whatever the network does, the services of a start run as the mode asks for, or fail and can be
closed. -/
theorem ensures_services (bare : s.world.Bare) :
    Ensures (services n) (· = s)
      (fun _ t => s.Begins t ∧ t.world.Up ∧ (t.Routes ∨ t.Tunnels)) (Fails s) := by
  have reached : s.Reaches [] s := reaches_of_bare (.refl s) bare
  unfold services
  refine .get_bind fun t same => ?_
  subst same
  dsimp only
  split
  · exact .of_known (.throw fun _ h => ⟨h.begins, h.closable⟩) reached
  · split
    case h_1 mode =>
      refine ((ensures_routing n t).of_known reached).mono fun _ u h => ?_
      exact ⟨h.begins, h.up, .inl ⟨h.begins.settings ▸ mode, h.roles, h.channelId⟩⟩
    case h_2 mode =>
      refine ((ensures_tunneling n t).of_known reached).mono fun _ u ⟨h, watched⟩ => ?_
      exact ⟨h.begins, h.up, .inr ⟨h.begins.settings ▸ mode, h.begins.settings ▸ h.roles,
        h.channelId, h.control, h.data, watched⟩⟩

end Start

end KnxIp.Session
