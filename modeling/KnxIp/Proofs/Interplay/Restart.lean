/-
  A session that is started again.

  Whatever a client has been through, and whoever closed the session in the end, a session that is
  not started has nothing left of a connection: no socket, no channel and no keep-alive
  (`Orderly`). What it still remembers of the gateway is negotiated anew, and in routing mode there
  is nothing to remember (`configured_run`). So starting it again is like starting a new session
  with the same settings, towards which the network behaves as it does towards the old one from here
  on (`start_like_new`). The network chooses the free ports as well.

  The known values are kept. Those of both sessions change by the same operations.
-/
import KnxIp.Proofs.Interplay.Moves
import KnxIp.Proofs.Session.Lifecycle
import KnxIp.Proofs.Session.Likeness

namespace KnxIp

namespace Session.Start

/-- Joining a group negotiates nothing that only a tunnel has. -/
theorem ensures_routing_tunnelless (n : Network) :
    Ensures (routing n) Tunnelless (fun _ => Tunnelless) Tunnelless := by
  unfold routing
  refine .get_bind fun t clean => .of_known ?_ clean
  refine Ensures.bind (Q := fun _ => Tunnelless) (.onWorld fun u clean => ?_) fun _ => ?_
  · generalize u.world.bind n _ _ _ = ended
    obtain ⟨result, w⟩ := ended
    cases result <;> exact clean
  · exact .modify fun _ clean => clean

theorem tunnelless_services (n : Network) (s : Session) (mode : s.settings.mode = .routing)
    (clean : s.Tunnelless) : (services n s).2.Tunnelless := by
  have ended : Ensures (services n) (· = s) (fun _ => Tunnelless) Tunnelless := by
    unfold services
    refine .get_bind fun t same => ?_
    subst same
    dsimp only
    rw [mode]
    split
    · exact .of_known (.throw fun _ clean => clean) clean
    · exact (ensures_routing_tunnelless n).of_known clean
  have reached := ended s rfl
  generalize services n s = result at reached ⊢
  obtain ⟨result, t⟩ := result
  cases result <;> exact reached

end Session.Start

namespace Interplay

variable {x : Interplay} {settings : Settings}

/-- The settings are these, and in routing mode there was never a tunnel. -/
structure Configured (given : Settings) (x : Interplay) : Prop where
  settings : x.session.settings = given
  tunnelless : given.mode = .routing → x.session.Tunnelless

theorem configured_steers {y : Interplay} (orderly : x.Orderly) (h : x.Configured settings)
    (steers : x.Steers y) : y.Configured settings := by
  cases steers with
  | @serves s _ _ n failure =>
    have starting := Session.Start.starting_services n s orderly.2.2.1
    have clean := Session.Start.tunnelless_services n s
    exact ⟨starting.settings.trans h.settings,
      fun mode => clean ((congrArg (·.mode) h.settings).trans mode) (h.tunnelless mode)⟩
  | idles | starts | misses | shuts | succeeds | fails | unwatches | parts | releases | ends =>
    exact ⟨h.settings, h.tunnelless⟩

theorem configured_beside (h : x.Configured settings) {m : Move} (isBeside : m.IsBeside) :
    (x.apply m).Configured settings := by
  obtain ⟨-, operations, beside⟩ := x.beside_apply isBeside
  refine ⟨beside.settings.trans h.settings, fun mode => ?_⟩
  unfold Session.Tunnelless
  rw [beside.negotiated]
  exact h.tunnelless mode

theorem configured_run (orderly : x.Orderly) (h : x.Configured settings) (moves : List Move) :
    (x.run moves).Configured settings :=
  holds_run (fun m orderly h =>
    (beside_or_steers _ m).elim (configured_beside h) (configured_steers orderly h)) orderly h moves

/-- After any history that ends with the session not started, a start has the result of a start of a
new session, and hands over and receives the same datagrams in the same order at the same sockets.
If it succeeds, the same was negotiated. Either way both sessions are alike afterwards: in the
channel, the next sequence number, the peers of the sockets, the exchanges, the last number of the
peer and the keep-alive; and everything that arrives is treated alike. -/
theorem start_like_new {settings : Settings} {context : Context} {moves : List Move}
    (fresh : context.connection.channelId = none)
    (history : (Interplay.new settings context).run moves = x) (free : x.lock = .free)
    (phase : x.session.phase = .notStarted) (n : Network) (other : Context) :
    let past := x.session.world
    let again := x.session.start n
    let first := (Session.new settings other).start (n.since past)
    again.1 = first.1 ∧
    again.2.world.journal = past.journal ++ first.2.world.journal ∧
    (again.1 = .ok () → again.2.negotiated = first.2.negotiated) ∧
    Session.Alike past other.status again.2 first.2 ∧
    ∀ arrivals, World.Alike past other.status (again.2.world.arriveAll n arrivals)
      (first.2.world.arriveAll (n.since past) arrivals) := by
  intro past again first
  have orderly : x.Orderly := history ▸ orderly_run (orderly_new settings fresh) moves
  have configured : x.Configured settings :=
    history ▸ configured_run (orderly_new settings fresh) ⟨rfl, fun _ => ⟨rfl, rfl⟩⟩ moves
  have down : x.session.Down := by
    unfold Orderly at orderly
    rw [free] at orderly
    obtain ⟨-, spent⟩ | ⟨started, -⟩ := orderly
    · exact spent.down phase
    · cases phase.symm.trans started
  obtain ⟨same, clean⟩ := configured
  obtain ⟨result, alike, negotiated⟩ := Session.agrees_start n down
    (fun mode => clean ((congrArg (·.mode) same).symm.trans mode)) other
  rw [same] at result alike negotiated
  exact ⟨result, alike.world.journal, negotiated (), alike, fun arrivals =>
    alike.world.arriveAll n arrivals⟩

/-- A session is started, sends a telegram, is closed because the peer asks for it, and is started
again. -/
theorem start_like_new_granted :
    let gateway := (Session.granting []).network
    let settings := Settings.tunnelingTo Gateway.main
    let context := Context.new .nobody
    let moves : List Move :=
      [.start, .proceed gateway, .proceed gateway, .call (.write (.group ⟨0x0A03⟩) [1])] ++
        List.replicate 7 (.advance 0 gateway false) ++
        [.arrive gateway ⟨.loopback, 49153⟩ Gateway.main
          [6, 0x10, 2, 9, 0, 16, 5, 0, 8, 1, 127, 0, 0, 1, 0x0E, 0x57], .helper] ++
        List.replicate 4 (.proceed gateway)
    let x := (Interplay.new settings context).run moves
    let past := x.session.world
    let again := x.session.start gateway
    let first := (Session.new settings context).start (gateway.since past)
    (context.connection.channelId = none ∧ x.lock = .free ∧ x.session.phase = .notStarted ∧
      again.1 = .ok ()) ∧
    again.2.world.journal = past.journal ++ first.2.world.journal ∧
    again.2.negotiated = first.2.negotiated ∧
    Session.Alike past context.status again.2 first.2 := by
  intro gateway settings context moves x past again first
  have fresh : context.connection.channelId = none := rfl
  have history : (Interplay.new settings context).run moves = x := rfl
  have free : x.lock = .free := by decide +kernel
  have phase : x.session.phase = .notStarted := by decide +kernel
  have started : again.1 = .ok () := by
    have isOk : again.1.isOk = true := by decide +kernel
    generalize again.1 = result at isOk ⊢
    cases result with
    | error f => cases isOk
    | ok _ => rfl
  -- from here on it does not matter how the history has ended
  clear_value x
  obtain ⟨-, journal, negotiated, alike, -⟩ :=
    start_like_new fresh history free phase gateway context
  exact ⟨⟨fresh, free, phase, started⟩, journal, negotiated started, alike⟩

end Interplay
end KnxIp
