/-
  What one operation does to a session.

  Between two operations a session is either down or live (`Session.Settled`). An operation on a
  live session leaves it as it is, but for what the network brings about (`Stays`), or closes it
  somewhere on the way, once (`apply_cases`). Closing brings the session down; on the way it enters
  two phases, notifies the observers, and asks to close the channel unless the peer has done so
  (`Closes`). An admitted start ends with a live session, or fails and closes it (`start_cases`).
-/
import KnxIp.Session.Run
import KnxIp.Proofs.Session.Starting

namespace KnxIp.Session

open Journal

/-! ## Down and live -/

/-- Nothing is held. -/
structure Down (s : Session) : Prop where
  phase : s.phase = .notStarted
  closed : s.closed = true
  sockets : s.world.sockets = []
  monitor : s.monitor = none
  channelId : s.channelId = none
  control : s.negotiated.control = none
  data : s.negotiated.data = none

/-- The session is started, and what its mode needs is running. -/
structure Live (s : Session) : Prop where
  phase : s.phase = .started
  closed : s.closed = false
  up : s.world.Up
  services : s.Routes ∨ s.Tunnels

/-- Nothing is in progress. -/
def Settled (s : Session) : Prop := s.Down ∨ s.Live

theorem Down.bare {s : Session} (h : s.Down) : s.world.Bare := ⟨h.sockets, h.channelId⟩

theorem Down.not_live {s : Session} (h : s.Down) : ¬ s.Live := fun live => by
  cases h.phase.symm.trans live.phase

theorem Live.closable {s : Session} (h : s.Live) : s.Closable := by
  refine ⟨h.up, fun held => ?_⟩
  rcases h.services with routes | tunnels
  · exact absurd routes.channelId held
  · exact tunnels.roles

theorem Settled.up {s : Session} (h : s.Settled) : s.world.Up := by
  rcases h with down | live
  · simp [World.Up, down.sockets]
  · exact live.up

/-! ## Staying -/

/-- The second session has come about from the first one without a change of the phase. The caller
has asked to close these channels. -/
structure Stays (asked : List UInt8) (s t : Session) : Prop where
  world : s.world.Goes asked t.world
  settings : t.settings = s.settings
  phase : t.phase = s.phase
  closed : t.closed = s.closed
  negotiated : t.negotiated = s.negotiated
  monitor : t.monitor.isSome = s.monitor.isSome

namespace Stays

variable {asked asked' : List UInt8} {s t u : Session}

theorem refl (s : Session) : Stays [] s s := ⟨.refl _, rfl, rfl, rfl, rfl, rfl⟩

theorem withWorld {w : World} (h : s.world.Goes asked w) : Stays asked s { s with world := w } :=
  ⟨h, rfl, rfl, rfl, rfl, rfl⟩

theorem trans (h : Stays asked s t) (k : Stays asked' t u) : Stays (asked ++ asked') s u :=
  ⟨h.world.trans k.world, k.settings.trans h.settings, k.phase.trans h.phase,
    k.closed.trans h.closed, k.negotiated.trans h.negotiated, k.monitor.trans h.monitor⟩

theorem roles (h : Stays asked s t) : t.roles = s.roles := by
  rw [Session.roles, Session.roles, h.world.sockets]

theorem channelId (h : Stays asked s t) : t.channelId = s.channelId := h.world.keeps.channelId

theorem down (h : Stays asked s t) (down : s.Down) : t.Down where
  phase := h.phase.trans down.phase
  closed := h.closed.trans down.closed
  sockets := h.world.sockets.trans down.sockets
  monitor := by simpa [down.monitor] using h.monitor
  channelId := h.channelId.trans down.channelId
  control := h.negotiated ▸ down.control
  data := h.negotiated ▸ down.data

theorem live (h : Stays asked s t) (live : s.Live) : t.Live where
  phase := h.phase.trans live.phase
  closed := h.closed.trans live.closed
  up := h.world.up live.up
  services := by
    rcases live.services with ⟨mode, roles, channelId⟩ | tunnels
    · exact .inl ⟨h.settings ▸ mode, h.roles.trans roles, h.channelId.trans channelId⟩
    · exact .inr ⟨h.settings ▸ tunnels.mode, h.settings ▸ h.roles.trans tunnels.roles,
        h.channelId ▸ tunnels.channelId, h.negotiated ▸ tunnels.control,
        h.negotiated ▸ tunnels.data, h.monitor.trans tunnels.monitor⟩

theorem settled (h : Stays asked s t) (settled : s.Settled) : t.Settled :=
  settled.imp h.down h.live

end Stays

/-! ## Closing -/

/-- The channels that closing the session asks to close: the one it holds, unless the peer has
closed it. -/
def farewell (s : Session) : List UInt8 :=
  if s.world.peerClosed then [] else s.channelId.toList

/-- What closing has led to. -/
structure Closes (s t : Session) : Prop where
  down : t.Down
  settings : t.settings = s.settings
  accepting : t.context.observers.accepting = s.context.observers.accepting
  lifecycle : t.context.observers.lifecycle =
    s.context.observers.lifecycle ++ if s.context.observers.accepting then [.shutdown] else []
  journal : ∃ since, t.world.journal =
      s.world.journal ++ .entered .stopRequested :: since ++ [.entered .notStarted] ∧
    phases since = [] ∧ disconnects since = s.farewell

/-- The session when closing it has begun. -/
def stopping (s : Session) : Session :=
  { s with closed := true, monitor := none }.enter .stopRequested

theorem close_of_open (n : Network) {s : Session} (isOpen : s.closed = false) :
    s.close n = (((s.stopping.disconnectHeld n).release).enter .notStarted).withContext
      (·.notify .shutdown) :=
  if_neg (by simp [isOpen])

theorem close_of_closed (n : Network) {s : Session} (h : s.closed = true) : s.close n = s :=
  if_pos h

theorem socketFor_of_tunnelRoles {s : Session} (h : s.roles = tunnelRoles s.settings)
    {channel : Channel} (tunneled : channel = .control ∨ channel = .data) :
    ∃ socket, s.socketFor channel = some socket := by
  unfold roles tunnelRoles at h
  refine Option.isSome_iff_exists.mp (List.find?_isSome.mpr ?_)
  have known : ∃ role ∈ s.world.sockets.map (·.role), role.accepts channel = true := by
    rw [h]
    rcases tunneled with rfl | rfl <;> split <;> simp [Role.accepts]
  obtain ⟨role, used, accepts⟩ := known
  obtain ⟨socket, mem, rfl⟩ := List.mem_map.mp used
  exact ⟨socket, mem, accepts⟩

theorem socketFor_control {s : Session} (h : s.roles = tunnelRoles s.settings) :
    ∃ socket, s.socketFor .control = some socket := socketFor_of_tunnelRoles h (.inl rfl)

theorem stays_disconnectHeld (n : Network) {s : Session} (h : s.Closable) :
    Stays s.farewell s (s.disconnectHeld n) := by
  unfold disconnectHeld farewell
  cases held : s.channelId with
  | none => simpa using Stays.refl s
  | some channel =>
    show Stays _ s (if s.world.peerClosed then s else s.disconnect n channel)
    split
    · exact .refl s
    · obtain ⟨control, found⟩ := socketFor_control (h.roles (held ▸ nofun))
      simp only [disconnect, found]
      exact .withWorld (World.goes_request n s.world h.up control (.disconnectRequest channel _))

theorem closes_close (n : Network) {s : Session} (isOpen : s.closed = false) (h : s.Closable) :
    s.Closes (s.close n) := by
  have said : Stays s.farewell s.stopping (s.stopping.disconnectHeld n) :=
    stays_disconnectHeld n (s := s.stopping) ⟨h.up, h.roles⟩
  rw [close_of_open n isOpen]
  generalize s.stopping.disconnectHeld n = t at said ⊢
  obtain ⟨since, grown, quiet, own, -⟩ := said.world.journal
  refine ⟨⟨rfl, said.closed, rfl, ?_, rfl, rfl, rfl⟩, said.settings, ?_, ?_, since, ?_, quiet, own⟩
  · have gone : t.monitor = none := by simpa [stopping, enter] using said.monitor
    exact gone
  · exact (Observers.accepting_notify _ _).trans said.world.keeps.accepting
  · refine (Observers.lifecycle_notify _ _).trans ?_
    show t.context.observers.lifecycle ++
      (if t.context.observers.accepting && true then _ else _) = _
    rw [said.world.keeps.lifecycle, said.world.keeps.accepting, Bool.and_true]
    rfl
  · show t.world.journal ++ [_] = _
    rw [grown]
    show s.world.journal ++ [_] ++ since ++ [_] = _
    simp

theorem Live.closes (n : Network) {s : Session} (h : s.Live) : s.Closes (s.close n) :=
  closes_close n h.closed h.closable

/-! ## Operations on a settled session -/

/-- The session goes on, or is closed on the way. -/
def Proceeds (n : Network) (s t : Session) : Prop :=
  Stays [] s t ∨ ∃ u, Stays [] s u ∧ u.Live ∧ Stays [] (u.close n) t

namespace Proceeds

variable {n : Network} {s t u : Session}

theorem of_stays (h : Stays [] s t) : s.Proceeds n t := .inl h

theorem close (live : s.Live) : s.Proceeds n (s.close n) := .inr ⟨s, .refl s, live, .refl _⟩

/-- A session is not closed twice, because the first time it comes down. -/
theorem trans (h : s.Proceeds n t) (k : t.Proceeds n u) : s.Proceeds n u := by
  rcases h with stays | ⟨v, stays, live, after⟩
  · rcases k with stays' | ⟨v, stays', live, after⟩
    · exact .inl (stays.trans stays')
    · exact .inr ⟨v, stays.trans stays', live, after⟩
  · rcases k with stays' | ⟨v', stays', live', -⟩
    · exact .inr ⟨v, stays, live, after.trans stays'⟩
    · exact absurd live' (stays'.down (after.down (live.closes n).down)).not_live

theorem settled (h : s.Proceeds n t) (settled : s.Settled) : t.Settled := by
  rcases h with stays | ⟨v, stays, live, after⟩
  · exact stays.settled settled
  · exact .inl (after.down (live.closes n).down)

end Proceeds

variable (n : Network) {s : Session}

theorem proceeds_close (settled : s.Settled) : s.Proceeds n (s.close n) := by
  rcases settled with down | live
  · rw [close_of_closed n down.closed]
    exact .of_stays (.refl s)
  · exact .close live

theorem proceeds_runCloser (settled : s.Settled) : s.Proceeds n (s.runCloser n) := by
  unfold runCloser
  split
  · exact .of_stays (.refl s)
  · have counted : Stays [] s { s with closersRun := s.closersRun + 1 } :=
      ⟨.refl _, rfl, rfl, rfl, rfl, rfl⟩
    exact (Proceeds.of_stays counted).trans (proceeds_close n (counted.settled settled))

theorem proceeds_runClosers (k : Nat) (settled : s.Settled) : s.Proceeds n (s.runClosers n k) := by
  induction k generalizing s with
  | zero => exact .of_stays (.refl s)
  | succ k ih =>
    have first := proceeds_runCloser n settled
    exact first.trans (ih (first.settled settled))

theorem proceeds_settle (settled : s.Settled) : s.Proceeds n (s.settle n) :=
  proceeds_runClosers n _ settled

/-- By induction on the attempts. Helpers may close the session between two of them. -/
theorem proceeds_transmit (socket : Socket) {b : Body} (asked : b.disconnect? = none)
    (attempts : Nat) (settled : s.Settled) :
    s.Proceeds n (transmit n socket b attempts s).2 := by
  induction attempts generalizing s with
  | zero => exact .of_stays (.refl s)
  | succ attempts ih =>
    have sent := World.goes_request n s.world settled.up socket b
    rw [asked] at sent
    unfold transmit
    generalize s.world.request n socket b = ended at sent ⊢
    obtain ⟨result, w⟩ := ended
    have stays : Stays [] s { s with world := w } := .withWorld sent
    have again : s.Proceeds n
        (transmit n socket b attempts ({ s with world := w }.settle n)).2 := by
      have helped := (Proceeds.of_stays stays).trans (proceeds_settle n (stays.settled settled))
      exact helped.trans (ih (helped.settled settled))
    split
    case h_1 ended =>
      cases ended
      exact .of_stays stays
    case h_2 ended =>
      cases ended
      exact .of_stays stays
    case h_3 ended =>
      cases ended
      exact again

/-- The caller can ask to close no channel but the one in the body. -/
theorem stays_send (settled : s.Settled) (b : Body) :
    ∃ asked, (b.disconnect? = none → asked = []) ∧ Stays asked s (s.send n b).2 := by
  unfold send
  split
  · exact ⟨[], fun _ => rfl, .refl s⟩
  · exact ⟨b.disconnect?.toList, by simp, .withWorld (World.goes_send n s.world settled.up _ b)⟩

theorem stays_request (settled : s.Settled) (b : Body) :
    ∃ asked, (b.disconnect? = none → asked = []) ∧ Stays asked s (s.request n b).2 := by
  unfold request
  split
  · exact ⟨[], fun _ => rfl, .refl s⟩
  · exact ⟨b.disconnect?.toList, by simp, .withWorld (World.goes_request n s.world settled.up _ b)⟩

theorem proceeds_sendTelegram (settled : s.Settled) (t : Telegram) :
    s.Proceeds n (s.sendTelegram n t).2 := by
  unfold sendTelegram
  split
  · obtain ⟨asked, own, stays⟩ := stays_send n settled (.routingIndication t)
    rw [own rfl] at stays
    generalize s.send n (.routingIndication t) = ended at stays ⊢
    obtain ⟨result, u⟩ := ended
    cases result <;> exact .of_stays stays
  · split
    · exact .of_stays (.refl s)
    · have counted : Stays [] s { s with sequence := s.sequence.take.2 } :=
        ⟨.refl _, rfl, rfl, rfl, rfl, rfl⟩
      dsimp only
      split
      · exact .of_stays counted
      · exact (Proceeds.of_stays counted).trans
          (proceeds_transmit n _ rfl _ (counted.settled settled))

theorem stays_keepAlive (settled : s.Settled) : Stays [] s (s.keepAlive n) := by
  unfold keepAlive
  split
  case h_1 => exact .refl s
  case h_2 m watched =>
    have goes := World.goes_watch n s.world settled.up m.socket m.endpoint m.watch
    exact ⟨goes, rfl, rfl, rfl, rfl, by simp [watched]⟩

/-- The channel that an operation asks to close by a body of the caller. -/
def Operation.disconnect? : Operation → Option UInt8
  | .send b | .request b => b.disconnect?
  | _ => none

theorem start_of_phase_ne (h : s.phase ≠ .notStarted) :
    s.start n = (.error (.connection .alreadyStarted), s) := if_pos h

/-- An operation other than an admitted start. -/
theorem apply_cases (settled : s.Settled) {op : Operation} (h : s.Live ∨ op ≠ .start) :
    (∃ asked, (op.disconnect? = none → asked = []) ∧ Stays asked s (s.apply n op)) ∨
      s.Proceeds n (s.apply n op) := by
  cases op with
  | start =>
    have live := h.resolve_right (absurd rfl)
    have refused := start_of_phase_ne n (s := s) (by rw [live.phase]; nofun)
    refine .inr (.of_stays ?_)
    rw [apply, refused]
    exact .refl s
  | close => exact .inr (proceeds_close n settled)
  | send b => exact .inl (stays_send n settled b)
  | request b => exact .inl (stays_request n settled b)
  | sendTelegram t => exact .inr (proceeds_sendTelegram n settled t)
  | arrive address source bytes =>
    have goes := World.goes_arrive n s.world settled.up address (.datagram source bytes)
    exact .inr (.of_stays (.withWorld goes))
  | interval => exact .inr (.of_stays (stays_keepAlive n settled))
  | helper => exact .inr (proceeds_runCloser n settled)

/-! ## Starting -/

/-- What the journal has gained by a start. -/
theorem starting_of_begins {t : Session} (begins : s.prepare.Begins t) :
    ∃ starting, t.world.journal = s.world.journal ++ .entered .startRequested :: starting ∧
      phases starting = [] ∧ disconnects starting = [] := by
  obtain ⟨starting, grown, quiet, own⟩ := begins.world.journal
  refine ⟨starting, ?_, quiet, own⟩
  rw [grown]
  exact List.append_assoc ..

/-- How an admitted start ends. -/
inductive Starts (s : Session) (n : Network) : Prop
  | runs (t : Session) (services : Start.services n s.prepare = (.ok (), t))
      (begins : s.prepare.Begins t)
      (live : ((t.enter .started).withContext (·.notify .start)).Live)
      (result : s.start n = (.ok (), (t.enter .started).withContext (·.notify .start)))
  | fails (t : Session) (f : Failure) (services : Start.services n s.prepare = (.error f, t))
      (begins : s.prepare.Begins t) (closable : t.Closable)
      (result : s.start n = (.error f, t.close n))

theorem starts_of_down (down : s.Down) : s.Starts n := by
  have bare : s.prepare.world.Bare := ⟨down.sockets, rfl⟩
  have ended := Start.ensures_services n s.prepare bare s.prepare rfl
  have admitted : ¬ s.phase ≠ .notStarted := by simp [down.phase]
  cases services : Start.services n s.prepare with | mk result t => ?_
  rw [services] at ended
  cases result with
  | error f =>
    refine .fails t f services ended.1 ended.2 ?_
    rw [start, if_neg admitted, services]
  | ok _ =>
    obtain ⟨begins, up, serves⟩ := ended
    refine .runs t services begins ⟨rfl, begins.closed, up, ?_⟩ ?_
    rotate_left
    · rw [start, if_neg admitted, services]
    exact serves.imp (fun ⟨mode, roles, channelId⟩ => ⟨mode, roles, channelId⟩)
      fun ⟨mode, roles, channelId, control, data, monitor⟩ =>
        ⟨mode, roles, channelId, control, data, monitor⟩

end KnxIp.Session
