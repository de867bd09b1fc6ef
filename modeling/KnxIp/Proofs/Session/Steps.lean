/-
  What is done to a session that is not being started.

  Sending, asking, receiving, watching and closing are all done in steps of the world
  (`Session.Continues`). The sockets that are used are those of the session, and the one that the
  keep-alive has kept; whatever they may be used for before, they may be used for afterwards
  (`Fits.continues`). Main statement: every operation but an admitted start continues the session
  (`continues_apply`).
-/
import KnxIp.Proofs.Network.Steps
import KnxIp.Session.Run

namespace KnxIp.Session

/-- The second session has come about from the first one in steps of its world, and the keep-alive
is the same, if there still is one. -/
structure Continues (uses : Peers → Body → Prop) (s t : Session) : Prop where
  world : World.Steps uses s.world t.world
  settings : t.settings = s.settings
  monitor : ∀ m, t.monitor = some m → ∃ m', s.monitor = some m' ∧ m'.socket = m.socket

/-- Every socket of the session may be used for all that its role sends, and the keep-alive may use
its own. -/
structure Fits (uses : Peers → Body → Prop) (s : Session) : Prop where
  sockets : s.world.Fits uses
  monitor : ∀ m, s.monitor = some m → ∀ channel endpoint,
    uses m.socket.peers (.connectionStateRequest channel endpoint)

variable {uses : Peers → Body → Prop} {s t u : Session}

namespace Continues

theorem withWorld {w : World} (h : World.Steps uses s.world w) :
    Continues uses s { s with world := w } := ⟨h, rfl, fun m same => ⟨m, same, rfl⟩⟩

theorem refl (s : Session) : Continues uses s s := withWorld .refl

theorem trans (h : Continues uses s t) (k : Continues uses t u) : Continues uses s u := by
  refine ⟨h.world.trans k.world, k.settings.trans h.settings, fun m same => ?_⟩
  obtain ⟨m', before, same'⟩ := k.monitor m same
  obtain ⟨m'', first, same''⟩ := h.monitor m' before
  exact ⟨m'', first, same''.trans same'⟩

/-- One more step, and perhaps the end of the keep-alive. -/
theorem step (h : Continues uses s t) (world : World.Step uses t.world u.world)
    (settings : u.settings = t.settings) (monitor : u.monitor = t.monitor ∨ u.monitor = none) :
    Continues uses s u := by
  refine h.trans ⟨.single world, settings, fun m same => ?_⟩
  obtain kept | gone := monitor
  · exact ⟨m, kept.symm.trans same, rfl⟩
  · cases gone.symm.trans same

theorem enter (h : Continues uses s t) (phase : SessionPhase) : Continues uses s (t.enter phase) :=
  h.step (.enter phase) rfl (.inl rfl)

theorem account (h : Continues uses s t) (f : Context → Context)
    (same : (f t.context).status = t.context.status) : Continues uses s (t.withContext f) :=
  h.step (.account f same) rfl (.inl rfl)

end Continues

theorem Fits.continues (fits : s.Fits uses) (h : Continues uses s t) : t.Fits uses := by
  refine ⟨World.Steps.fits h.world fits.sockets, fun m same => ?_⟩
  obtain ⟨m', before, socket⟩ := h.monitor m same
  rw [← socket]
  exact fits.monitor m' before

theorem mem_of_socketFor {channel : Channel} {socket : Socket}
    (found : s.socketFor channel = some socket) :
    socket ∈ s.world.sockets ∧ socket.role.accepts channel = true := by
  unfold socketFor at found
  exact ⟨List.mem_of_find?_eq_some found, by simpa using List.find?_some found⟩

/-- The session is started and has the socket for the body, or there is none. -/
theorem route_eq_ok_iff {b : Body} {socket : Socket} :
    s.route b = .ok socket ↔
      s.isStarted = true ∧ s.socketFor b.service.channel = some socket := by
  unfold route
  cases s.isStarted <;> cases s.socketFor b.service.channel <;> simp

theorem Fits.of_route (fits : s.Fits uses) {b : Body} {socket : Socket}
    (routed : s.route b = .ok socket) : uses socket.peers b := by
  obtain ⟨mem, accepts⟩ := mem_of_socketFor (route_eq_ok_iff.mp routed).2
  exact fits.sockets socket mem b accepts

/-! ## The functions of a session -/

variable (n : Network)

theorem continues_disconnectHeld (fits : s.Fits uses) :
    Continues uses s (s.disconnectHeld n) := by
  unfold disconnectHeld
  split
  · exact .refl s
  · split
    · exact .refl s
    · unfold disconnect
      split
      · exact .refl s
      · next control found =>
        obtain ⟨mem, accepts⟩ := mem_of_socketFor found
        exact .withWorld (World.steps_request n s.world (fits.sockets control mem _ accepts))

theorem continues_close (fits : s.Fits uses) : Continues uses s (s.close n) := by
  unfold close
  split
  · exact .refl s
  · have unwatched : Continues uses s { s with closed := true, monitor := none } :=
      ⟨.refl, rfl, fun m watched => by cases watched⟩
    have stopped := unwatched.enter .stopRequested
    have parted := stopped.trans (continues_disconnectHeld n (fits.continues stopped))
    have freed := parted.account (·.withConnection fun c => { c with channelId := none }) rfl
    have released : Continues uses s (release _) := freed.step .vacate rfl (.inl rfl)
    exact (released.enter .notStarted).account (·.notify .shutdown) rfl

theorem continues_runCloser (fits : s.Fits uses) : Continues uses s (s.runCloser n) := by
  unfold runCloser
  split
  · exact .refl s
  · have counted : Continues uses s { s with closersRun := s.closersRun + 1 } :=
      ⟨.refl, rfl, fun m same => ⟨m, same, rfl⟩⟩
    exact counted.trans (continues_close n (fits.continues counted))

theorem continues_settle (fits : s.Fits uses) : Continues uses s (s.settle n) := by
  have all (k : Nat) : ∀ {s : Session}, s.Fits uses → Continues uses s (s.runClosers n k) := by
    induction k with
    | zero => exact fun _ => .refl _
    | succ k ih =>
      intro s fits
      have first := continues_runCloser n fits
      exact first.trans (ih (fits.continues first))
  exact all s.pendingClosers fits

/-- By induction on the attempts. -/
theorem continues_transmit {socket : Socket} {b : Body} (used : uses socket.peers b)
    (attempts : Nat) (fits : s.Fits uses) :
    Continues uses s (transmit n socket b attempts s).2 := by
  induction attempts generalizing s with
  | zero => exact .refl s
  | succ attempts ih =>
    have asked : Continues uses s { s with world := (s.world.request n socket b).2 } :=
      .withWorld (World.steps_request n s.world used)
    unfold transmit
    generalize s.world.request n socket b = ended at asked ⊢
    obtain ⟨result, w⟩ := ended
    have settled := asked.trans (continues_settle n (fits.continues asked))
    have again := settled.trans (ih (fits.continues settled))
    split
    case h_1 ended => cases ended; exact asked
    case h_2 ended => cases ended; exact asked
    case h_3 ended => cases ended; exact again

theorem continues_send (fits : s.Fits uses) (b : Body) : Continues uses s (s.send n b).2 := by
  unfold send
  split
  · exact .refl s
  · next socket routed =>
    exact .withWorld (World.steps_send n s.world (fits.of_route routed))

theorem continues_request (fits : s.Fits uses) (b : Body) :
    Continues uses s (s.request n b).2 := by
  unfold request
  split
  · exact .refl s
  · next socket routed =>
    exact .withWorld (World.steps_request n s.world (fits.of_route routed))

theorem continues_sendTelegram (fits : s.Fits uses) (t : Telegram) :
    Continues uses s (s.sendTelegram n t).2 := by
  unfold sendTelegram
  split
  · have sent := continues_send n fits (.routingIndication t)
    generalize s.send n (.routingIndication t) = ended at sent ⊢
    obtain ⟨result, u⟩ := ended
    cases result <;> exact sent
  · split
    · exact .refl s
    · dsimp only
      split
      · exact ⟨.refl, rfl, fun m same => ⟨m, same, rfl⟩⟩
      · next socket routed =>
        have counted : Continues uses s { s with sequence := s.sequence.take.2 } :=
          ⟨.refl, rfl, fun m same => ⟨m, same, rfl⟩⟩
        have fits := fits.continues counted
        exact counted.trans (continues_transmit n (fits.of_route routed) _ fits)

theorem continues_arrive (address source : Endpoint) (bytes : Bytes) :
    Continues uses s (s.arrive n address source bytes) :=
  .withWorld (.single (.arrive n address _))

theorem continues_keepAlive (fits : s.Fits uses) : Continues uses s (s.keepAlive n) := by
  unfold keepAlive
  split
  · exact .refl s
  · next m watched =>
    refine ⟨World.steps_watch n s.world (fun channel => fits.monitor m watched channel _) m.watch,
      rfl, fun m' same => ?_⟩
    cases same
    exact ⟨m, watched, rfl⟩

/-- An operation other than an admitted start. -/
theorem continues_apply (fits : s.Fits uses) {op : Operation}
    (h : op = .start → s.phase ≠ .notStarted) : Continues uses s (s.apply n op) := by
  cases op with
  | start =>
    have refused : s.start n = (.error (.connection .alreadyStarted), s) := if_pos (h rfl)
    rw [apply, refused]
    exact .refl s
  | close => exact continues_close n fits
  | send b => exact continues_send n fits b
  | request b => exact continues_request n fits b
  | sendTelegram t => exact continues_sendTelegram n fits t
  | arrive address source bytes => exact continues_arrive n address source bytes
  | interval => exact continues_keepAlive n fits
  | helper => exact continues_runCloser n fits

end KnxIp.Session
