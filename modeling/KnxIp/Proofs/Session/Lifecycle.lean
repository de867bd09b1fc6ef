/-
  The life of a session.

  Every operation takes a settled session along a path through the phases to a settled session
  again (`follows_apply`), and so does every run. Main statement: whatever happens to a session, it
  is down or serves its mode, with nothing left over in the one case and nothing missing in the
  other; a start is refused unless it is down, and brings it down again when it fails
  (`settled_of_run`).
-/
import KnxIp.Network.Gateway
import KnxIp.Proofs.Session.Progress

namespace KnxIp

namespace SessionPhase

/-- One phase may come right after the other. -/
inductive Follows : SessionPhase → SessionPhase → Prop
  | request : Follows notStarted startRequested
  | succeed : Follows startRequested started
  | fail : Follows startRequested stopRequested
  | stop : Follows started stopRequested
  | finish : Follows stopRequested notStarted

/-- The phases in the list, entered one after the other, lead from one phase to another. -/
inductive Path : SessionPhase → List SessionPhase → SessionPhase → Prop
  | nil (p : SessionPhase) : Path p [] p
  | cons {p q r : SessionPhase} {ps : List SessionPhase} (next : Follows p q) (rest : Path q ps r) :
      Path p (q :: ps) r

theorem Path.append {p q r : SessionPhase} {ps qs : List SessionPhase} (h : Path p ps q)
    (k : Path q qs r) : Path p (ps ++ qs) r := by
  induction h with
  | nil => exact k
  | cons next _ ih => exact .cons next (ih k)

/-- A start that succeeds. -/
theorem path_start : Path notStarted [startRequested, started] started :=
  .cons .request (.cons .succeed (.nil _))

/-- A start that fails. -/
theorem path_fail : Path notStarted [startRequested, stopRequested, notStarted] notStarted :=
  .cons .request (.cons .fail (.cons .finish (.nil _)))

theorem path_stop : Path started [stopRequested, notStarted] notStarted :=
  .cons .stop (.cons .finish (.nil _))

end SessionPhase

namespace Session

open Journal SessionPhase

variable {s t : Session} {n : Network}

/-- The second session has come about from the first one along a path through the phases. -/
def Advances (s t : Session) : Prop :=
  t.Settled ∧ ∃ entered, phases t.world.journal = phases s.world.journal ++ entered ∧
    Path s.phase entered t.phase

theorem Advances.trans {u : Session} (h : s.Advances t) (k : t.Advances u) : s.Advances u := by
  obtain ⟨-, entered, grown, path⟩ := h
  obtain ⟨settled, entered', grown', path'⟩ := k
  exact ⟨settled, entered ++ entered', by rw [grown', grown, List.append_assoc], path.append path'⟩

theorem Stays.advances {asked : List UInt8} (h : Stays asked s t) (settled : s.Settled) :
    s.Advances t := by
  obtain ⟨since, grown, quiet, -⟩ := h.world.journal
  exact ⟨h.settled settled, [], by rw [grown, phases_append, quiet], h.phase ▸ .nil _⟩

theorem Closes.phases (h : s.Closes t) :
    Journal.phases t.world.journal =
      Journal.phases s.world.journal ++ [.stopRequested, .notStarted] := by
  obtain ⟨since, grown, quiet, -⟩ := h.journal
  simp [grown, quiet]

theorem Proceeds.advances (h : s.Proceeds n t) (settled : s.Settled) : s.Advances t := by
  rcases h with stays | ⟨u, stays, live, after⟩
  · exact stays.advances settled
  · have closes := live.closes n
    have closing : u.Advances (u.close n) := by
      refine ⟨.inl closes.down, _, closes.phases, ?_⟩
      rw [live.phase, closes.down.phase]
      exact path_stop
    exact ((stays.advances settled).trans closing).trans (after.advances (.inl closes.down))

theorem Starts.advances (h : s.Starts n) (down : s.Down) : s.Advances (s.start n).2 := by
  cases h with
  | runs t services begins live result =>
    obtain ⟨starting, grown, quiet, -⟩ := starting_of_begins begins
    rw [result]
    refine ⟨.inr live, [.startRequested, .started], ?_, ?_⟩
    · show phases (t.world.journal ++ [.entered .started]) = _
      simp [grown, quiet]
    · rw [down.phase, live.phase]
      exact path_start
  | fails t f services begins closable result =>
    obtain ⟨starting, grown, quiet, -⟩ := starting_of_begins begins
    have closes := closes_close n begins.closed closable
    rw [result]
    refine ⟨.inl closes.down, [.startRequested, .stopRequested, .notStarted], ?_, ?_⟩
    · rw [closes.phases, grown]
      simp [quiet]
    · rw [down.phase, closes.down.phase]
      exact path_fail

theorem advances_apply (n : Network) (settled : s.Settled) (op : Operation) :
    s.Advances (s.apply n op) := by
  have other (h : s.Live ∨ op ≠ .start) : s.Advances (s.apply n op) := by
    obtain ⟨asked, -, stays⟩ | proceeds := apply_cases n settled h
    · exact stays.advances settled
    · exact proceeds.advances settled
  rcases settled with down | live
  · by_cases start : op = .start
    · subst start
      exact (starts_of_down n down).advances down
    · exact other (.inr start)
  · exact other (.inl live)

/-- By induction on the operations. -/
theorem advances_runOn (settled : s.Settled) (steps : List (Network × Operation)) :
    s.Advances (s.runOn steps) := by
  induction steps generalizing s with
  | nil => exact ⟨settled, [], by simp [runOn], .nil _⟩
  | cons step steps ih =>
    have first := advances_apply step.1 settled step.2
    exact first.trans (ih first.1)

/-- How many open sockets take frames of a channel. -/
def openFor (s : Session) (channel : Channel) : Nat :=
  s.world.sockets.countP fun socket =>
    socket.isOpen && socket.running && socket.role.accepts channel

theorem openFor_of_up (up : s.world.Up) (channel : Channel) :
    s.openFor channel = s.roles.countP (·.accepts channel) := by
  rw [roles, List.countP_map]
  refine List.countP_congr fun socket mem => ?_
  obtain ⟨isOpen, running⟩ := up socket mem
  simp [isOpen, running]

theorem countP_tunnelRoles (settings : Settings) {channel : Channel}
    (h : channel = .control ∨ channel = .data) :
    (tunnelRoles settings).countP (·.accepts channel) = 1 := by
  unfold tunnelRoles
  rcases h with rfl | rfl <;> split <;> rfl

theorem down_new (settings : Settings) {context : Context}
    (fresh : context.connection.channelId = none) : (Session.new settings context).Down :=
  ⟨rfl, rfl, rfl, rfl, fresh, rfl, rfl⟩

/-- Whatever happens to a session, its phases follow one another, and between two operations it is
down, or started with just the sockets that its mode needs. It cannot be started unless it is down,
and it is down again after a start that fails. -/
theorem settled_of_run (settings : Settings) (context : Context)
    (fresh : context.connection.channelId = none) (steps : List (Network × Operation)) :
    let s := (Session.new settings context).runOn steps
    Path .notStarted (phases s.world.journal) s.phase ∧
    (s.phase = .notStarted ∧ s.closed = true ∧ s.world.sockets = [] ∧ s.monitor = none ∧
        s.channelId = none ∧ s.negotiated.control = none ∧ s.negotiated.data = none ∨
      s.phase = .started ∧ s.closed = false ∧
        (s.settings.mode = .routing ∧ s.roles = [.routing] ∧ s.openFor .routing = 1 ∧
            s.channelId = none ∨
          s.settings.mode = .tunneling ∧ s.channelId.isSome = true ∧ s.monitor.isSome = true ∧
            s.negotiated.control.isSome = true ∧ s.negotiated.data.isSome = true ∧
            s.openFor .control = 1 ∧ s.openFor .data = 1)) ∧
    ∀ n : Network,
      (s.phase ≠ .notStarted → s.start n = (.error (.connection .alreadyStarted), s)) ∧
      ∀ f, (s.start n).1 = .error f → s.phase = .notStarted →
        (s.start n).2.phase = .notStarted := by
  intro s
  have began := down_new settings fresh
  obtain ⟨settled, entered, grown, path⟩ := advances_runOn (.inl began) steps
  have all : phases s.world.journal = entered := grown
  refine ⟨all ▸ path, ?_, fun n => ⟨start_of_phase_ne n, fun f failed phase => ?_⟩⟩
  · rcases settled with ⟨phase, closed, sockets, monitor, channelId, control, data⟩ |
      ⟨phase, closed, up, services⟩
    · exact .inl ⟨phase, closed, sockets, monitor, channelId, control, data⟩
    · refine .inr ⟨phase, closed, ?_⟩
      rcases services with
        ⟨mode, roles, channelId⟩ | ⟨mode, roles, channelId, control, data, monitor⟩
      · refine .inl ⟨mode, roles, ?_, channelId⟩
        rw [openFor_of_up up, roles]
        rfl
      · refine .inr ⟨mode, channelId, monitor, control, data, ?_, ?_⟩
        · rw [openFor_of_up up, roles, countP_tunnelRoles _ (.inl rfl)]
        · rw [openFor_of_up up, roles, countP_tunnelRoles _ (.inr rfl)]
  · have down : s.Down := settled.resolve_right fun live => by cases phase.symm.trans live.phase
    cases starts_of_down n down with
    | runs t services begins live result => rw [result] at failed; cases failed
    | fails t f services begins closable result =>
      rw [result]
      exact (closes_close n begins.closed closable).down.phase

/-- A gateway that offers tunneling, grants channel 5, and sends these bodies right after. -/
def granting (more : List Body) : Gateway where
  script
    | .descriptionRequest => [fun _ => [written (.descriptionResponse description)]]
    | .connectRequest =>
      [fun _ => written (.connectResponse 5 statusOk none none) :: more.map written]
    | _ => []
where
  written (b : Body) : Bytes := ((Frame.ofBody b).bytes.toOption).getD []
  description : Description :=
    ⟨⟨32, 0, .unspecified, 0, ⟨0, 0, 0, 0, 0, 0⟩, .unspecified, ⟨0, 0, 0, 0, 0, 0⟩, "gateway"⟩,
      .ofList [(.tunneling, 1)], []⟩

/-- A session that has got its channel. -/
theorem settled_of_run_granted :
    let context := Context.new .nobody
    let s := (Session.new (.tunnelingTo Gateway.main) context).runOn
      [((granting []).network, .start)]
    context.connection.channelId = none ∧ s.phase = .started ∧ s.channelId = some 5 ∧
      s.openFor .control = 1 ∧ s.openFor .data = 1 := by
  intro context s
  have fresh : context.connection.channelId = none := rfl
  have started : s.phase = .started := by decide +kernel
  have held : s.channelId = some 5 := by decide +kernel
  obtain ⟨-, settled, -⟩ := settled_of_run (.tunnelingTo Gateway.main) context fresh
    [((granting []).network, .start)]
  refine ⟨fresh, started, held, ?_⟩
  rcases settled with ⟨phase, -⟩ | ⟨-, -, ⟨-, -, -, channelId⟩ | ⟨-, -, -, -, -, control, data⟩⟩
  · cases phase.symm.trans started
  · cases channelId.symm.trans held
  · exact ⟨control, data⟩

end Session
end KnxIp
