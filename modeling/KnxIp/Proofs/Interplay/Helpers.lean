/-
  Who closes a connection that was started.

  A helper closes whatever connection there is when it gets its turn. While a connection is open, a
  helper is asked for only because the peer of this connection has asked to close it, or because its
  keep-alive has given up (`Own`, `own_run`). So if no helper was pending when the session was
  started, the connection is closed by the application, or because of one of these
  (`closed_by_own_request`).

  Nothing tells a helper for which connection it was asked. One that is still pending when the
  session is started again closes the new connection: `closed_by_late_helper`.
-/
import KnxIp.Proofs.Interplay.Moves
import KnxIp.Proofs.Session.Lifecycle

namespace KnxIp

open Journal

/-- Since a moment in the life of the session, its peer has asked to close the channel that is held,
or its keep-alive has given the connection up. -/
def Session.AskedSince (s t : Session) : Prop :=
  t.GaveUp ∨ ∃ since id, t.world.journal = s.world.journal ++ since ∧ t.channelId = some id ∧
    id ∈ peerDisconnects since

/-- What was asked for stays asked for, as long as the connection is the same. -/
theorem Session.AskedSince.further {s t u : Session} (asked : s.AskedSince t)
    (gaveUp : t.GaveUp → u.GaveUp) (channelId : u.channelId = t.channelId)
    {more : List Happening} (grown : u.world.journal = t.world.journal ++ more) :
    s.AskedSince u := by
  obtain gone | ⟨since, id, before, held, mem⟩ := asked
  · exact .inl (gaveUp gone)
  · refine .inr ⟨since ++ more, id, ?_, channelId.trans held, ?_⟩
    · rw [grown, before, List.append_assoc]
    · rw [peerDisconnects_append]
      exact List.mem_append_left _ mem

namespace Interplay

/-- Of the helpers that were asked for since a moment, each was asked for because of the connection
that is open now. -/
structure Own (s : Session) (x : Interplay) : Prop where
  closersRun : s.closersRun ≤ x.session.closersRun
  journal : ∃ since, x.session.world.journal = s.world.journal ++ since
  told : x.session.context.connection.told ≠ s.context.connection.told →
    s.AskedSince x.session

variable {x : Interplay} {s : Session}

theorem Own.beside (own : Own s x) {operations : List StatusPool.Operation} {t : Session}
    {lock : Lock} {calls : List Call} {ledger : List Entry}
    (beside : Session.Beside operations x.session t) : Own s ⟨t, lock, calls, ledger⟩ := by
  obtain ⟨past, grown⟩ := own.journal
  obtain ⟨since, more, -, asked⟩ := beside.journal
  have all : t.world.journal = s.world.journal ++ (past ++ since) := by
    rw [more, grown, List.append_assoc]
  refine ⟨Nat.le_trans own.closersRun (Nat.le_of_eq beside.closersRun.symm), ⟨_, all⟩,
    fun changed => ?_⟩
  by_cases first : x.session.context.connection.told = s.context.connection.told
  · obtain gaveUp | ⟨id, held, mem⟩ := asked fun same => changed (same.trans first)
    · exact .inl gaveUp
    · refine .inr ⟨_, id, all, beside.channelId.trans held, ?_⟩
      rw [peerDisconnects_append]
      exact List.mem_append_right _ mem
  · exact (own.told first).further beside.gaveUp beside.channelId more

/-- At the beginning of a start there is neither a channel nor a keep-alive. -/
theorem Own.told_eq (own : Own s x) (channelId : x.session.channelId = none)
    (monitor : x.session.monitor = none) :
    x.session.context.connection.told = s.context.connection.told := by
  refine Decidable.byContradiction fun changed => ?_
  obtain ⟨m, watched, -⟩ | ⟨since, id, -, held, -⟩ := own.told changed
  · cases monitor.symm.trans watched
  · cases channelId.symm.trans held

/-- As long as the connection is open, only a start goes on. -/
theorem own_steers {y : Interplay} (orderly : x.Orderly) (own : Own s x) (steers : x.Steers y)
    (isOpen : x.session.closed = false) (still : y.session.closed = false) : Own s y := by
  cases steers with
  | idles => exact own
  | starts idle =>
    obtain ⟨-, spent⟩ | ⟨started, -⟩ := orderly
    · cases isOpen.symm.trans spent.closed
    · cases idle.symm.trans started
  | misses closed => cases isOpen.symm.trans closed
  | shuts | fails => cases still
  | serves n failure =>
    obtain ⟨-, -, channelId, monitor⟩ := orderly
    have starting := Session.Start.starting_services n _ channelId
    obtain ⟨past, grown⟩ := own.journal
    obtain ⟨-, since, -, more, -⟩ := starting.heard
    refine ⟨Nat.le_trans own.closersRun (Nat.le_of_eq starting.closersRun.symm),
      ⟨past ++ since, ?_⟩, fun changed => (changed ?_).elim⟩
    · exact more.trans ((congrArg (· ++ since) grown).trans (List.append_assoc ..))
    · exact starting.told.trans (own.told_eq channelId monitor)
  | @succeeds t =>
    obtain ⟨past, grown⟩ := own.journal
    have all : t.world.journal ++ [.entered .started] =
        s.world.journal ++ (past ++ [.entered .started]) :=
      (congrArg (· ++ [_]) grown).trans (List.append_assoc ..)
    exact ⟨own.closersRun, ⟨_, all⟩, fun changed => (own.told changed).further id rfl rfl⟩
  | unwatches => cases isOpen.symm.trans orderly.2
  | parts | releases => cases isOpen.symm.trans orderly.2.1
  | ends => cases isOpen.symm.trans orderly.2.closed

theorem own_apply (orderly : x.Orderly) (own : Own s x) (m : Move)
    (isOpen : x.session.closed = false) (still : (x.apply m).session.closed = false) :
    Own s (x.apply m) := by
  obtain isBeside | steers := x.beside_or_steers m
  · obtain ⟨-, operations, beside⟩ := x.beside_apply isBeside
    exact own.beside beside
  · exact own_steers orderly own steers isOpen still

/-- By induction on the moves, from the last one. -/
theorem own_run (orderly : x.Orderly) (own : Own s x) (moves : List Move)
    (isOpen : ∀ earlier, earlier <+: moves → (x.run earlier).session.closed = false) :
    Own s (x.run moves) := by
  induction moves using List.reverseRecOn with
  | nil => exact own
  | append_singleton moves m ih =>
    have before := ih fun earlier prior => isOpen earlier (prior.trans (List.prefix_append ..))
    have still := isOpen (moves ++ [m]) (List.prefix_refl _)
    rw [run_concat] at still ⊢
    exact own_apply (orderly_run orderly moves) before m
      (isOpen moves (List.prefix_append ..)) still

/-- Who is started has no lock to wait for. -/
theorem free_of_started (orderly : x.Orderly) (phase : x.session.phase = .started) :
    x.lock = .free ∧ x.session.closed = false := by
  obtain ⟨t, lock, calls, ledger⟩ := x
  cases lock with
  | free =>
    obtain ⟨idle, -⟩ | ⟨-, isOpen⟩ := orderly
    · cases idle.symm.trans phase
    · exact ⟨rfl, isOpen⟩
  | _ => cases orderly.1.symm.trans phase

theorem started_beside (x : Interplay) {m : Move} (isBeside : m.IsBeside)
    (phase : x.session.phase = .started) : (x.apply m).session.phase = .started := by
  obtain ⟨-, operations, beside⟩ := x.beside_apply isBeside
  exact beside.phase.trans phase

/-- Only closing ends a connection that is started, by the application or by a helper. -/
theorem ends_cases (orderly : x.Orderly) (phase : x.session.phase = .started) {m : Move}
    (ends : (x.apply m).session.phase ≠ .started) :
    m = .close ∨ m = .helper ∧ x.session.pendingClosers ≠ 0 := by
  obtain ⟨free, isOpen⟩ := free_of_started orderly phase
  have stays : x.apply m = x → False := fun same => ends (same.symm ▸ phase)
  cases m with
  | start => exact (stays (if_neg fun possible => by cases phase.symm.trans possible.2)).elim
  | close => exact .inl rfl
  | helper => exact .inr ⟨rfl, fun noneLeft => stays (if_neg fun possible => possible.2 noneLeft)⟩
  | proceed n =>
    have same : x.apply (.proceed n) = x := by simp only [apply, proceed, free]
    exact (stays same).elim
  | call | advance | send | request | arrive | interval | markDirty | clear =>
    exact (ends (started_beside x trivial phase)).elim

/-- A connection that was started while no helper was pending is closed by the application, or by a
helper after the peer of this very connection has asked for it, or its keep-alive has given up. A
helper that is pending closes the connection, whoever has asked for it. -/
theorem closed_by_own_request (settings : Settings) {context : Context}
    (fresh : context.connection.channelId = none) (before during : List Move) :
    let x := (Interplay.new settings context).run before
    let u := x.run (.start :: during)
    x.lock = .free → x.session.phase = .notStarted →
    (∀ earlier, earlier <+: during → (x.run (.start :: earlier)).session.closed = false) →
    u.session.phase = .started →
      (x.session.pendingClosers = 0 → ∀ m, (u.apply m).session.phase ≠ .started →
        m = .close ∨ m = .helper ∧ x.session.AskedSince u.session) ∧
      (u.session.pendingClosers ≠ 0 → (u.apply .helper).session.phase = .stopRequested) := by
  intro x u free idle isOpen phase
  have orderly : x.Orderly := orderly_run (orderly_new settings fresh) before
  have after : u.Orderly := orderly_run orderly _
  refine ⟨fun noneLeft m ends => ?_, fun pending => ?_⟩
  · refine (ends_cases after phase ends).imp_right fun ⟨same, pending⟩ => ⟨same, ?_⟩
    have began : x.apply .start =
        ⟨x.session.prepare, .starting, x.calls, x.ledger ++ [.restarted]⟩ := if_pos ⟨free, idle⟩
    have own : Own x.session (x.apply .start) := by
      rw [began]
      exact ⟨Nat.le_refl _, ⟨[.entered .startRequested], rfl⟩, fun changed => (changed rfl).elim⟩
    have owned : Own x.session u := own_run (orderly_apply orderly .start) own during isOpen
    refine owned.told fun same => pending ?_
    -- as many were told as before, and as many helpers have run at least
    have run := owned.closersRun
    unfold Session.pendingClosers at noneLeft ⊢
    rw [same]
    omega
  · obtain ⟨unlocked, stillOpen⟩ := free_of_started after phase
    have turn : u.apply .helper = teardown
        { u with session := { u.session with closersRun := u.session.closersRun + 1 } } :=
      if_pos ⟨unlocked, pending⟩
    rw [turn, teardown, if_neg (by simp [stillOpen])]
    rfl

/-- The peer asks to close channel 5, which was granted in this start. -/
theorem closed_by_own_request_peer :
    let gateway := (Session.granting []).network
    let context := Context.new .nobody
    let x := (Interplay.new (.tunnelingTo Gateway.main) context).run []
    let during : List Move := [.proceed gateway, .proceed gateway,
      .arrive gateway ⟨.loopback, 49153⟩ Gateway.main
        [6, 0x10, 2, 9, 0, 16, 5, 0, 8, 1, 127, 0, 0, 1, 0x0E, 0x57]]
    let u := x.run (.start :: during)
    (context.connection.channelId = none ∧ x.lock = .free ∧ x.session.phase = .notStarted ∧
      (∀ earlier, earlier <+: during → (x.run (.start :: earlier)).session.closed = false) ∧
      u.session.phase = .started) ∧
    x.session.AskedSince u.session ∧ (u.apply .helper).session.phase = .stopRequested := by
  intro gateway context x during u
  have fresh : context.connection.channelId = none := rfl
  have isOpen : ∀ earlier, earlier <+: during →
      (x.run (.start :: earlier)).session.closed = false := by
    intro earlier prior
    rw [List.prefix_iff_eq_take.mp prior]
    have all : ∀ k ≤ during.length,
        (x.run (.start :: during.take k)).session.closed = false := by decide +kernel
    exact all _ prior.length_le
  have phase : u.session.phase = .started := by decide +kernel
  have ended : (u.apply .helper).session.phase = .stopRequested := by decide +kernel
  have own := (closed_by_own_request (.tunnelingTo Gateway.main) fresh [] during rfl rfl isOpen
    phase).1 rfl .helper (by rw [ended]; nofun)
  exact ⟨⟨fresh, rfl, rfl, isOpen, phase⟩, (own.resolve_left nofun).2, ended⟩

/-- The peer asks to close the first connection, and the application closes it before the helper
gets its turn. The session is started again, and the helper closes the second connection, although
its peer has not asked for it and its keep-alive has not given up. -/
theorem closed_by_late_helper :
    let gateway := (Session.granting []).network
    let first := (Interplay.new (.tunnelingTo Gateway.main) (Context.new .nobody)).run
      ([.start, .proceed gateway, .proceed gateway,
        .arrive gateway ⟨.loopback, 49153⟩ Gateway.main
          [6, 0x10, 2, 9, 0, 16, 5, 0, 8, 1, 127, 0, 0, 1, 0x0E, 0x57],
        .close] ++ List.replicate 4 (.proceed gateway))
    let second := first.run [.start, .proceed gateway, .proceed gateway]
    first.session.phase = .notStarted ∧ first.session.pendingClosers = 1 ∧
      second.session.phase = .started ∧ second.session.channelId = some 5 ∧
      ¬ first.session.AskedSince second.session ∧
      (second.apply .helper).session.phase = .stopRequested := by
  intro gateway first second
  have watching : second.session.monitor.map (·.watch.phase) ≠ some (.over true) := by
    decide +kernel
  have silent : peerDisconnects
      (second.session.world.journal.drop first.session.world.journal.length) = [] := by
    decide +kernel
  refine ⟨by decide +kernel, by decide +kernel, by decide +kernel, by decide +kernel, ?_,
    by decide +kernel⟩
  rintro (⟨m, watched, gaveUp⟩ | ⟨since, id, grown, -, mem⟩)
  · rw [watched] at watching
    exact watching (congrArg some gaveUp)
  · rw [grown, List.drop_left] at silent
    rw [silent] at mem
    cases mem

end Interplay
end KnxIp
