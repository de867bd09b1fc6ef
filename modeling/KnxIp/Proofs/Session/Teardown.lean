/-
  One teardown for each start.

  A span of a session begins with an admitted start and ends when the session is down again. A
  session that is live stays as it is until one operation closes it (`closes_once`), so each span
  has one teardown. Main statement: the journal of a span falls into the start, the time of service
  and the teardown, and only the teardown asks to close a channel: the one held, unless the peer has
  done so while it was held (`teardown_of_span`).

  The peer can also be too early. A disconnect request that comes right behind the connect response
  is refused, because the caller has not yet taken over the channel, and at the end the session
  disconnects from a channel that the gateway has closed long since (`early_disconnect_is_lost`).
-/
import KnxIp.Proofs.Session.Lifecycle

namespace KnxIp.Session

open Journal

/-- The session is down after all of the steps, and never before. -/
structure Spans (s : Session) (steps : List (Network × Operation)) : Prop where
  running : ∀ k < steps.length, (s.runOn (steps.take k)).phase ≠ .notStarted
  ended : (s.runOn steps).phase = .notStarted

variable {s : Session}

theorem Spans.tail {step : Network × Operation} {steps : List (Network × Operation)}
    (h : s.Spans (step :: steps)) : (s.apply step.1 step.2).Spans steps :=
  ⟨fun k hk => h.running (k + 1) (Nat.succ_lt_succ hk), h.ended⟩

/-- A session that is down has no steps left in its span. -/
theorem Spans.eq_nil {steps : List (Network × Operation)} (h : s.Spans steps)
    (down : s.phase = .notStarted) : steps = [] := by
  cases steps with
  | nil => rfl
  | cons step steps => exact absurd down (h.running 0 (Nat.succ_pos _))

/-- Until the span is over, a live session stays as it is but for one teardown. By induction on the
steps: each of them leaves the session live, or is the one that closes it. -/
theorem closes_once (live : s.Live) {steps : List (Network × Operation)}
    (own : ∀ step ∈ steps, step.2.disconnect? = none) (h : s.Spans steps) :
    ∃ n u, Stays [] s u ∧ u.Live ∧ Stays [] (u.close n) (s.runOn steps) := by
  induction steps generalizing s with
  | nil => cases live.phase.symm.trans h.ended
  | cons step steps ih =>
    obtain ⟨none, own⟩ := List.forall_mem_cons.mp own
    have goes_on (stays : Stays [] s (s.apply step.1 step.2)) :
        ∃ n u, Stays [] s u ∧ u.Live ∧ Stays [] (u.close n) (s.runOn (step :: steps)) := by
      obtain ⟨n, u, stays', liveThen, after⟩ := ih (stays.live live) own h.tail
      exact ⟨n, u, stays.trans stays', liveThen, after⟩
    obtain ⟨asked, unasked, stays⟩ | stays | ⟨u, stays, liveThen, after⟩ :=
      apply_cases step.1 (.inr live) (.inl live)
    · exact goes_on (unasked none ▸ stays)
    · exact goes_on stays
    · have last := h.tail.eq_nil (after.down (liveThen.closes step.1).down).phase
      subst last
      exact ⟨step.1, u, stays, liveThen, after⟩

/-- The channels to ask to close, when one is held and the peer has asked to close these. -/
def owed (held : Option UInt8) (peer : List UInt8) : List UInt8 :=
  match held with
  | some channel => if channel ∈ peer then [] else [channel]
  | none => []

theorem farewell_of_stays {u : Session} (untold : s.world.peerClosed = false)
    (h : Stays [] s u) :
    ∃ since, u.world.journal = s.world.journal ++ since ∧ phases since = [] ∧
      disconnects since = [] ∧ u.farewell = owed s.channelId (peerDisconnects since) := by
  obtain ⟨since, grown, quiet, own, closed⟩ := h.world.journal
  refine ⟨since, grown, quiet, own, ?_⟩
  have told := closed rfl
  rw [untold] at told
  unfold farewell owed
  rw [h.channelId]
  change u.world.peerClosed = true ↔ _ ∨ ∃ id, s.channelId = some id ∧ _ at told
  generalize s.channelId = held at told ⊢
  cases held with
  | none => simp
  | some channel =>
    have same : u.world.peerClosed = true ↔ channel ∈ peerDisconnects since := by simpa using told
    simp [same]

/-- What a session has written into its journal when it has been torn down, and what the observers
have been told. -/
structure TornDown (s w : Session) (serving closing after : List Happening) : Prop where
  journal : w.world.journal = s.world.journal ++ serving ++ .entered .stopRequested :: closing ++
    .entered .notStarted :: after
  phases : phases (serving ++ closing ++ after) = []
  own : disconnects (serving ++ after) = []
  closing : disconnects closing = owed s.channelId (peerDisconnects serving)
  lifecycle : w.context.observers.lifecycle =
    s.context.observers.lifecycle ++ if s.context.observers.accepting then [.shutdown] else []

theorem tornDown_of_stays {u w : Session} (n : Network) (untold : s.world.peerClosed = false)
    (serves : Stays [] s u) (isOpen : u.closed = false) (closable : u.Closable)
    (rests : Stays [] (u.close n) w) :
    ∃ serving closing after, s.TornDown w serving closing after := by
  obtain ⟨serving, grown, quiet, own, farewell⟩ := farewell_of_stays untold serves
  have closes := closes_close n isOpen closable
  obtain ⟨closing, grown', quiet', own'⟩ := closes.journal
  obtain ⟨after, grown'', quiet'', own'', -⟩ := rests.world.journal
  refine ⟨serving, closing, after, ?_, ?_, ?_, own'.trans farewell, ?_⟩
  · rw [grown'', grown', grown]
    simp
  · simp [quiet, quiet', quiet'']
  · simp [own, own'']
  · have same := rests.world.keeps.lifecycle
    have before := serves.world.keeps
    rw [closes.lifecycle, before.lifecycle, before.accepting] at same
    exact same

/-- The channel that the services of a start have got, if the session is started. -/
def granted (n : Network) (s : Session) : Option UInt8 := (Start.services n s.prepare).2.channelId

/-- How a session `u` has come down again after a start of `s` that was admitted. -/
structure Spanned (n : Network) (s u : Session) : Prop where
  /-- The start, the time of service, one teardown, and what comes after it. Only the teardown asks
  to close a channel, and only the one held, if the peer has not asked for it while it was. -/
  journal : ∃ starting serving closing after,
    u.world.journal = s.world.journal ++ .entered .startRequested :: starting ++
      (if (s.start n).1.isOk then [.entered .started] else []) ++ serving ++
      .entered .stopRequested :: closing ++ .entered .notStarted :: after ∧
    Journal.phases (starting ++ serving ++ closing ++ after) = [] ∧
    disconnects (starting ++ serving ++ after) = [] ∧
    disconnects closing = owed (s.granted n) (peerDisconnects serving)
  /-- What the services have got is held as soon as the session is started. -/
  held : (s.start n).1.isOk = true → (s.start n).2.channelId = s.granted n
  /-- The observers are told of the end once, and of the start if it succeeded. -/
  lifecycle : u.context.observers.lifecycle = s.context.observers.lifecycle ++
    if s.context.observers.accepting then
      (if (s.start n).1.isOk then [.start] else []) ++ [.shutdown] else []

/-- From an admitted start until the session is down again there is one teardown, whatever happens
meanwhile, as long as the caller sends no disconnect request. Closing a session that is down does
nothing. -/
theorem teardown_of_span (settings : Settings) (context : Context)
    (fresh : context.connection.channelId = none) (before : List (Network × Operation)) :
    let s := (Session.new settings context).runOn before
    s.phase = .notStarted →
    (∀ n, s.close n = s ∧ s.closesInTime n = true) ∧
    ∀ n steps, (∀ step ∈ steps, step.2.disconnect? = none) → (s.start n).2.Spans steps →
      Spanned n s ((s.start n).2.runOn steps) := by
  intro s phase
  have settled := (advances_runOn (.inl (down_new settings fresh)) before).1
  have down : s.Down := settled.resolve_right fun live => by cases phase.symm.trans live.phase
  refine ⟨fun n => ⟨close_of_closed n down.closed, by simp [closesInTime, down.closed]⟩,
    fun n steps own span => ?_⟩
  have untold : s.prepare.world.peerClosed = false := rfl
  cases starts_of_down n down with
  | runs t services begins live result =>
    obtain ⟨starting, grown, quiet, none⟩ := starting_of_begins begins
    have held : s.granted n = t.channelId := by rw [granted, services]
    have started : (s.start n).1.isOk = true := by rw [result]; rfl
    let serving := (t.enter .started).withContext (·.notify .start)
    have now : (s.start n).2 = serving := by rw [result]
    rw [now] at span ⊢
    obtain ⟨m, v, serves, liveThen, rests⟩ := closes_once live own span
    obtain ⟨served, closing, after, h⟩ := tornDown_of_stays (s := serving) m
      (begins.world.peerClosed.trans untold) serves liveThen.closed liveThen.closable rests
    refine ⟨⟨starting, served, closing, after, ?_, ?_, ?_, held ▸ h.closing⟩, fun _ => ?_, ?_⟩
    · rw [h.journal]
      show t.world.journal ++ [_] ++ served ++ _ :: closing ++ _ :: after = _
      simp [grown, started]
    · simpa [quiet] using h.phases
    · simpa [none] using h.own
    · rw [now]
      exact held.symm
    · have told : serving.context.observers.lifecycle = s.context.observers.lifecycle ++
          if s.context.observers.accepting then [.start] else [] := by
        refine (Observers.lifecycle_notify t.context.observers .start).trans ?_
        rw [begins.world.lifecycle, begins.world.accepting]
        simp only [Event.isLifecycle, Bool.and_true]
        rfl
      have accepting : serving.context.observers.accepting = s.context.observers.accepting :=
        (Observers.accepting_notify _ _).trans begins.world.accepting
      rw [h.lifecycle, told, accepting, started]
      cases s.context.observers.accepting <;> simp
  | fails t f services begins closable result =>
    obtain ⟨starting, grown, quiet, none⟩ := starting_of_begins begins
    have held : s.granted n = t.channelId := by rw [granted, services]
    have failed : (s.start n).1.isOk = false := by rw [result]; rfl
    have now : (s.start n).2 = t.close n := by rw [result]
    have closes := closes_close n begins.closed closable
    rw [now] at span ⊢
    -- The start has closed the session itself, so the span is over.
    have last := span.eq_nil closes.down.phase
    subst last
    obtain ⟨served, closing, after, h⟩ := tornDown_of_stays n
      (begins.world.peerClosed.trans untold) (.refl t) begins.closed closable (.refl (t.close n))
    refine ⟨⟨starting, served, closing, after, ?_, ?_, ?_, held ▸ h.closing⟩,
      fun started => absurd (failed.symm.trans started) nofun, ?_⟩
    · show (t.close n).world.journal = _
      rw [h.journal]
      simp [grown, failed]
    · simpa [quiet] using h.phases
    · simpa [none] using h.own
    · show (t.close n).context.observers.lifecycle = _
      rw [h.lifecycle, begins.world.lifecycle, begins.world.accepting, failed]
      rfl

/-- A session that is started, used for an interval of the keep-alive, and closed. -/
theorem teardown_of_span_granted :
    let context := Context.new (.pool [.steady] 1)
    let s := Session.new (.tunnelingTo Gateway.main) context
    let n := (granting []).network
    let steps := [(n, Operation.interval), (n, .close)]
    (context.connection.channelId = none ∧ s.phase = .notStarted ∧
      (∀ step ∈ steps, step.2.disconnect? = none) ∧ (s.start n).2.Spans steps) ∧
    s.granted n = some 5 ∧ Spanned n s ((s.start n).2.runOn steps) := by
  intro context s n steps
  have fresh : context.connection.channelId = none := rfl
  have idle : s.phase = .notStarted := rfl
  have own : ∀ step ∈ steps, step.2.disconnect? = none := by simp [steps, Operation.disconnect?]
  have span : (s.start n).2.Spans steps := by
    refine ⟨fun k hk => ?_, by decide +kernel⟩
    match k, hk with
    | 0, _ => decide +kernel
    | 1, _ => decide +kernel
  obtain ⟨-, h⟩ := teardown_of_span (.tunnelingTo Gateway.main) context fresh [] idle
  exact ⟨⟨fresh, idle, own, span⟩, by decide +kernel, h n steps own span⟩

/-- The gateway grants channel 5 and closes it at once. Its disconnect request has come to the
control socket before the session is started, and still the session, which holds the channel, asks
the gateway to close it. -/
theorem early_disconnect_is_lost :
    let n := (granting [.disconnectRequest 5 .unspecified]).network
    let s := (Session.new (.tunnelingTo Gateway.main) (.new .nobody)).runOn [(n, .start)]
    s.phase = .started ∧ s.channelId = some 5 ∧ peerDisconnects s.world.journal = [5] ∧
      disconnects s.world.journal = [] ∧ disconnects (s.close n).world.journal = [5] := by
  decide +kernel

end KnxIp.Session
