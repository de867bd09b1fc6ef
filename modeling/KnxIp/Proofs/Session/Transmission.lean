/-
  How often a telegram is transmitted, and what comes of it.

  A call sends one and the same tunneling request again and again. Each transmission opens a window
  in the journal, and the first window with an acknowledgement decides (`Tried`). Between two
  windows pending helpers may close the session; what comes for its sockets afterwards is not
  received, so the later windows are empty (`pauses_settle`).

  Main statement: `tried_of_sendTelegram`, for every session that is started in tunneling mode and
  every network that takes what the caller hands over. It has no hypothesis on what arrives. That an
  acknowledgement arrives in a window is not enough for it to count, if the session was closed by
  then: `misses_ack_after_disconnect`.
-/
import KnxIp.Proofs.Network.Windows
import KnxIp.Proofs.Session.StartUp
import KnxIp.Telegram.Draft

namespace KnxIp

open Journal

/-- What comes of up to `budget` transmissions, by the statuses of the acknowledgements in the
window of each. -/
inductive Tried (acks : List Happening → List UInt8) (budget : Nat) :
    List (List Happening) → Bool → Prop
  /-- The last window is the first with an acknowledgement. If it has several, the last one
  counts. -/
  | answered (silent : List (List Happening)) (window : List Happening) (status : UInt8)
      (within : silent.length < budget) (misses : ∀ w ∈ silent, acks w = [])
      (hit : (acks window).getLast? = some status) :
      Tried acks budget (silent ++ [window]) (status = statusOk)
  /-- There is no acknowledgement in any of as many windows as there may be. -/
  | exhausted (silent : List (List Happening)) (all : silent.length = budget)
      (misses : ∀ w ∈ silent, acks w = []) : Tried acks budget silent false

theorem Tried.cons {acks : List Happening → List UInt8} {budget : Nat}
    {windows : List (List Happening)} {result : Bool} (h : Tried acks budget windows result)
    {window : List Happening} (miss : acks window = []) :
    Tried acks (budget + 1) (window :: windows) result := by
  cases h with
  | answered silent last status within misses hit =>
    exact .answered (window :: silent) last status (Nat.succ_lt_succ within)
      (List.forall_mem_cons.mpr ⟨miss, misses⟩) hit
  | exhausted _ all misses =>
    exact .exhausted _ (congrArg Nat.succ all) (List.forall_mem_cons.mpr ⟨miss, misses⟩)

namespace Journal

theorem scripts_append_of_untunneled (n : Network) (earlier : List Attempt)
    {xs : List Happening} (ys : List Happening) (h : tunneled xs = []) :
    scripts n earlier (xs ++ ys) =
      scripts n (earlier ++ xs.filterMap Happening.attempt?) ys := by
  induction xs generalizing earlier with
  | nil => simp
  | cons x xs ih =>
    have none := List.filterMap_eq_nil_iff.mp h
    have rest : tunneled xs = [] :=
      List.filterMap_eq_nil_iff.mpr fun y mem => none y (List.mem_cons_of_mem _ mem)
    rw [List.cons_append, scripts, none x (List.mem_cons_self ..), ih _ rest, List.filterMap_cons,
      List.append_assoc]
    cases x.attempt? <;> rfl

end Journal

namespace Session

variable {n : Network} {s t u : Session}

/-! ## Helpers between two windows -/

/-- Closing a session opens no window. -/
theorem untunneled_close (n : Network) (telegram : Telegram) (up : s.world.Up)
    (isOpen : s.closed = false) :
    ∃ gained, (s.close n).world.journal =
        s.world.journal ++ .entered .stopRequested :: gained ∧ tunneled gained = [] := by
  have said : ∃ gained, (s.stopping.disconnectHeld n).world.journal =
      s.stopping.world.journal ++ gained ∧ tunneled gained = [] := by
    have nothing : ∃ gained, s.stopping.world.journal = s.stopping.world.journal ++ gained ∧
        tunneled gained = [] := ⟨[], (List.append_nil _).symm, rfl⟩
    unfold disconnectHeld
    cases held : s.stopping.channelId with
    | none => exact nothing
    | some channel =>
      dsimp only
      split
      · exact nothing
      · unfold disconnect
        cases s.stopping.socketFor .control with
        | none => exact nothing
        | some control =>
          exact World.untunneled_request (w := s.stopping.world) n up (.inr held) telegram control
            (b := .disconnectRequest channel _) nofun
  obtain ⟨gained, grown, none⟩ := said
  rw [close_of_open n isOpen]
  refine ⟨gained ++ [.entered .notStarted], ?_, by rw [tunneled_append, none]; rfl⟩
  show (s.stopping.disconnectHeld n).world.journal ++ [_] = _
  rw [grown]
  show s.world.journal ++ [_] ++ gained ++ [_] = _
  simp

theorem sequence_close (n : Network) (s : Session) : (s.close n).sequence = s.sequence := by
  unfold close
  split
  · rfl
  · show (disconnectHeld n _).sequence = s.sequence
    unfold disconnectHeld
    split
    · rfl
    · split
      · rfl
      · unfold disconnect
        split <;> rfl

/-- Helpers leave a session alone, or close it if it is live. -/
theorem runClosers_cases (n : Network) (k : Nat) (settled : s.Settled) :
    (∃ c, s.runClosers n k = { s with closersRun := c }) ∨
      s.Live ∧ ∃ c c', s.runClosers n k =
        { ({ s with closersRun := c }).close n with closersRun := c' } := by
  induction k generalizing s with
  | zero => exact .inl ⟨s.closersRun, rfl⟩
  | succ k ih =>
    have ran : s.runClosers n (k + 1) = (s.runCloser n).runClosers n k := rfl
    rw [ran, runCloser]
    split
    · exact ih settled
    · have counted : Stays [] s { s with closersRun := s.closersRun + 1 } :=
        ⟨.refl _, rfl, rfl, rfl, rfl, rfl⟩
      rcases settled with down | live
      · rw [close_of_closed n (counted.down down).closed]
        obtain ⟨c, ended⟩ | ⟨live, -⟩ := ih (.inl (counted.down down))
        · exact .inl ⟨c, ended⟩
        · exact absurd live (counted.down down).not_live
      · have closes := (counted.live live).closes n
        obtain ⟨c, ended⟩ | ⟨live', -⟩ := ih (.inl closes.down)
        · exact .inr ⟨live, _, c, ended⟩
        · exact absurd live' closes.down.not_live

/-- What helpers have done between two windows: nothing that matters, or they have closed the
session, as the journal shows, and it has no sockets any more. -/
structure Pauses (s t : Session) (pause : List Happening) : Prop where
  settled : t.Settled
  sequence : t.sequence = s.sequence
  journal : t.world.journal = s.world.journal ++ pause
  tunneled : tunneled pause = []
  rests : pause = [] ∧ t.world = s.world ∨
    t.world.sockets = [] ∧ ∃ rest, pause = .entered .stopRequested :: rest

theorem pauses_settle (n : Network) (telegram : Telegram) (settled : s.Settled) :
    ∃ pause, Pauses s (s.settle n) pause := by
  have settled' := (proceeds_settle n settled).settled settled
  unfold settle at settled' ⊢
  obtain ⟨c, ended⟩ | ⟨live, c, c', ended⟩ := runClosers_cases n s.pendingClosers settled
  · rw [ended] at settled' ⊢
    exact ⟨[], settled', rfl, (List.append_nil _).symm, rfl, .inl ⟨rfl, rfl⟩⟩
  · have counted : Stays [] s { s with closersRun := c } := ⟨.refl _, rfl, rfl, rfl, rfl, rfl⟩
    obtain ⟨rest, journal, none⟩ :=
      untunneled_close n telegram (s := { s with closersRun := c }) live.up live.closed
    rw [ended] at settled' ⊢
    exact ⟨_, settled', sequence_close n { s with closersRun := c }, journal, none,
      .inr ⟨((counted.live live).closes n).down.sockets, rest, rfl⟩⟩

/-! ## The transmissions of a call -/

/-- What a session has come to by transmitting a request, and what the journal has gained: the
windows of the transmissions, with this result. -/
structure Transmitted (n : Network) (channel number : UInt8) (a : Attempt) (attempts : Nat)
    (s u : Session) (result : Bool) (gained : List Happening) : Prop where
  sequence : u.sequence = s.sequence
  journal : u.world.journal = s.world.journal ++ gained
  tunneled : tunneled gained = List.replicate (windows gained).length a
  tried : Tried (acks channel number) attempts (windows gained) result
  /-- Nothing comes before the first transmission. -/
  begins : ∀ h ∈ gained.head?, h.tunneled? = some a
  /-- While the session is not closed, what is received in a window is all that arrives in it. -/
  received : phases gained = [] → (windows gained).map received =
    (scripts n s.world.attempts gained).map (·.filterMap s.world.receipt?)

variable {channel number : UInt8} {a : Attempt} {window : List Happening} {v : World}

/-- The answer in the first window ends the transmissions. -/
theorem transmitted_once {status : UInt8} (attempts : Nat)
    (opens : s.world.Opens n a v window)
    (hit : (acks channel number window).getLast? = some status) :
    Transmitted n channel number a (attempts + 1) s { s with world := v } (status = statusOk)
      (.handed a :: window) := by
  have sent := opens.tunneled
  have none := tunneled_of_within opens.within
  have opened : windows (.handed a :: window) = [window] := by
    have cut : windows (.handed a :: (window ++ [])) = window :: windows [] :=
      windows_cons (by rw [sent]; rfl) opens.within fun y first => by cases first
    rwa [List.append_nil] at cut
  refine ⟨rfl, opens.journal, ?_, ?_, ?_, fun _ => ?_⟩
  · rw [opened, Journal.tunneled, List.filterMap_cons, sent]
    show a :: Journal.tunneled window = _
    rw [none]
    rfl
  · rw [opened]
    exact .answered [] window status (Nat.succ_pos _) (List.forall_mem_nil _) hit
  · rintro h ⟨⟩
    exact sent
  · have rest := scripts_append_of_untunneled n (s.world.attempts ++ [a]) [] none
    rw [List.append_nil] at rest
    rw [opened, scripts, sent]
    simp only [Happening.attempt?, Option.toList_some, rest]
    simpa [scripts] using opens.received

/-- One more transmission before the others, when the first window is without an answer. -/
theorem Transmitted.cons {attempts : Nat} {pause gained : List Happening} {result : Bool}
    (h : Transmitted n channel number a attempts t u result gained)
    (opens : s.world.Opens n a v window) (miss : acks channel number window = [])
    (pauses : Pauses { s with world := v } t pause) :
    Transmitted n channel number a (attempts + 1) s u result
      (.handed a :: (window ++ (pause ++ gained))) := by
  have sent := opens.tunneled
  have none := tunneled_of_within opens.within
  have opened : windows (.handed a :: (window ++ (pause ++ gained))) =
      window :: windows gained := by
    rw [windows_cons (by rw [sent]; rfl) opens.within,
      windows_append_of_untunneled gained pauses.tunneled]
    intro x first
    obtain ⟨rfl, -⟩ | ⟨-, rest, rfl⟩ := pauses.rests
    · intro quiet
      cases quiet.1.symm.trans (h.begins x first)
    · cases first
      intro quiet
      cases quiet.2
  refine ⟨h.sequence.trans pauses.sequence, ?_, ?_, ?_, ?_, fun quiet => ?_⟩
  · rw [h.journal, pauses.journal, opens.journal]
    simp
  · rw [opened, Journal.tunneled, List.filterMap_cons, sent]
    show a :: Journal.tunneled (window ++ (pause ++ gained)) = _
    rw [tunneled_append, tunneled_append, pauses.tunneled, none, List.nil_append, List.nil_append,
      h.tunneled, List.length_cons, List.replicate_succ]
  · rw [opened]
    exact h.tried.cons miss
  · rintro x ⟨⟩
    exact sent
  · obtain ⟨rfl, same⟩ | ⟨-, rest, rfl⟩ := pauses.rests
    · have later : phases gained = [] := by
        have split : phases (.handed a :: (window ++ ([] ++ gained))) =
            phases window ++ phases gained := phases_append window gained
        rw [split] at quiet
        exact (List.append_eq_nil_iff.mp quiet).2
      have now : t.world.attempts =
          s.world.attempts ++ [a] ++ window.filterMap Happening.attempt? := by
        rw [same, World.attempts, opens.journal, List.filterMap_append, List.append_assoc]
        rfl
      have hears : t.world.receipt? = s.world.receipt? := by
        funext x
        rw [World.receipt?, World.receipt?, World.socket?, World.socket?, same, opens.goes.sockets]
      rw [opened, scripts, sent, List.map_cons, h.received later, now, hears, opens.received]
      simp only [Happening.attempt?, Option.toList_some, List.nil_append, List.map_cons,
        List.map_nil, List.singleton_append]
      rw [scripts_append_of_untunneled n _ gained none]
    · -- the session was closed in between, so there is nothing to show
      have split : phases (.handed a :: (window ++ (.entered .stopRequested :: rest ++ gained))) =
          phases window ++ .stopRequested :: phases (rest ++ gained) := phases_append window _
      rw [split] at quiet
      cases (List.append_eq_nil_iff.mp quiet).2

/-- By induction on the attempts. -/
theorem transmitted_of_transmit
    (takes : ∀ earlier socket d, (n.react earlier .caller socket d).refusal = none)
    {socket : Socket} {telegram : Telegram}
    (asks : World.IsTunneled socket (.tunnelingRequest ⟨channel, number, 0⟩ telegram) a)
    (attempts : Nat) (settled : s.Settled)
    (held : s.world.sockets = [] ∨ s.channelId = some channel) :
    ∃ result u gained,
      transmit n socket (.tunnelingRequest ⟨channel, number, 0⟩ telegram) attempts s =
        (.ok result, u) ∧
      Transmitted n channel number a attempts s u result gained := by
  induction attempts generalizing s with
  | zero =>
    exact ⟨false, s, [], rfl, rfl, (List.append_nil _).symm, rfl, .exhausted [] rfl nofun, nofun,
      fun _ => rfl⟩
  | succ attempts ih =>
    obtain ⟨v, window, asked, opens⟩ :=
      World.request_window takes settled.up held socket telegram asks
    unfold transmit
    rw [asked]
    cases answer : (acks channel number window).getLast? with
    | some status => exact ⟨_, _, _, rfl, transmitted_once attempts opens answer⟩
    | none =>
      let waited : Session := { s with world := v }
      have stays : Stays [] s waited := .withWorld opens.goes
      obtain ⟨pause, pauses⟩ := pauses_settle n telegram (stays.settled settled)
      have held' : (waited.settle n).world.sockets = [] ∨
          (waited.settle n).channelId = some channel := by
        obtain ⟨-, same⟩ | ⟨none, -⟩ := pauses.rests
        · rw [channelId, context, same]
          exact held.imp opens.goes.sockets.trans opens.goes.keeps.channelId.trans
        · exact .inl none
      obtain ⟨result, u, gained, ended, transmitted⟩ := ih pauses.settled held'
      exact ⟨result, u, _, ended,
        transmitted.cons opens (List.getLast?_eq_none_iff.mp answer) pauses⟩

/-- Putting a telegram on the bus through a tunnel, whatever arrives meanwhile. All transmissions
are of one datagram, with the next sequence number, and the counter goes on by one. There is one
for each window up to the first with an acknowledgement of this channel and number, and as many as
are allowed if there is none. The telegram counts as taken exactly if that acknowledgement has a
good status. Only acknowledgements that a socket for the data channel receives count. As long as
nothing closes the session, the windows hold what the network lets arrive after each transmission;
what comes for the sockets of a closed session is not received. -/
theorem tried_of_sendTelegram (settings : Settings) (context : Context)
    (fresh : context.connection.channelId = none) (steps : List (Network × Operation))
    (n : Network) (takes : ∀ earlier socket d, (n.react earlier .caller socket d).refusal = none)
    (telegram : Telegram) :
    let s := (Session.new settings context).runOn steps
    let attempts := s.settings.retries.tunneling.toNat
    let number := s.sequence.next
    s.phase = .started → s.settings.mode = .tunneling →
    ∃ channel socket a result u gained,
      s.channelId = some channel ∧ s.socketFor .data = some socket ∧
      World.IsTunneled socket (.tunnelingRequest ⟨channel, number, 0⟩ telegram) a ∧
      s.sendTelegram n telegram = (.ok result, u) ∧ u.sequence.next = number + 1 ∧
      u.world.journal = s.world.journal ++ gained ∧
      tunneled gained = List.replicate (windows gained).length a ∧
      Tried (acks channel number) attempts (windows gained) result ∧
      (phases gained = [] → (windows gained).map received =
        (scripts n s.world.attempts gained).map (·.filterMap s.world.receipt?)) := by
  intro s attempts number started mode
  have settled : s.Settled := (advances_runOn (.inl (down_new settings fresh)) steps).1
  have live : s.Live := settled.resolve_left fun down => nomatch down.phase.symm.trans started
  have tunnels : s.Tunnels :=
    live.services.resolve_left fun routes => nomatch routes.mode.symm.trans mode
  obtain ⟨channel, held⟩ := Option.isSome_iff_exists.mp tunnels.channelId
  obtain ⟨socket, found⟩ := socketFor_of_tunnelRoles tunnels.roles (.inr rfl)
  obtain ⟨bytes, written⟩ :=
    Frame.exists_bytes_tunnelingRequest ⟨channel, number, 0⟩ telegram
  have asks : World.IsTunneled socket (.tunnelingRequest ⟨channel, number, 0⟩ telegram)
      ⟨.caller, socket.address, ⟨bytes, socket.peers.ofChannel .data⟩, false⟩ :=
    ⟨rfl, rfl, written, rfl, rfl⟩
  let counted : Session := { s with sequence := s.sequence.take.2 }
  have stays : Stays [] s counted := ⟨.refl _, rfl, rfl, rfl, rfl, rfl⟩
  obtain ⟨result, u, gained, ended, transmitted⟩ :=
    transmitted_of_transmit takes asks attempts (stays.settled settled) (s := counted) (.inr held)
  refine ⟨channel, socket, _, result, u, gained, held, found, asks, ?_,
    congrArg SequenceCounter.next transmitted.sequence, transmitted.journal, transmitted.tunneled,
    transmitted.tried, transmitted.received⟩
  have routed : counted.route (.tunnelingRequest ⟨channel, number, 0⟩ telegram) = .ok socket := by
    have isStarted : counted.isStarted = true := decide_eq_true started
    have found' : counted.socketFor Service.tunnelingRequest.channel = some socket := found
    simp only [route, isStarted, if_true, Body.service, found']
  have sending : s.sendTelegram n telegram =
      transmit n socket (.tunnelingRequest ⟨channel, number, 0⟩ telegram) attempts counted := by
    have tunneled : s.sequence.take = (number, counted.sequence) := rfl
    simp only [sendTelegram, mode, held, tunneled]
    rw [show Session.route { s with sequence := counted.sequence } _ = _ from routed]
  rw [sending]
  exact ended

/-- The gateway acknowledges another request first, and this one when it is repeated. -/
theorem tried_of_sendTelegram_repeated :
    let ack (number : UInt8) : Bytes := granting.written (.ack 5 number statusOk)
    let gateway : Gateway := ⟨fun
      | .tunnelingRequest => [fun _ => [ack 7], fun _ => [ack 0]]
      | service => (granting []).script service⟩
    let n := gateway.network
    let context := Context.new .nobody
    let s := (Session.new (.tunnelingTo Gateway.main) context).runOn [(n, .start)]
    let telegram := (Telegram.groupRead ⟨0x0A03⟩).toOption.get (by decide)
    (context.connection.channelId = none ∧
      (∀ earlier socket d, (n.react earlier .caller socket d).refusal = none) ∧
      s.phase = .started ∧ s.settings.mode = .tunneling) ∧
    ∃ u gained, s.sendTelegram n telegram = (.ok true, u) ∧ u.sequence.next = 1 ∧
      u.world.journal = s.world.journal ++ gained ∧
      (windows gained).map (acks 5 0) = [[], [statusOk]] ∧
      Tried (acks 5 0) 2 (windows gained) true := by
  intro ack gateway n context s telegram
  have takes : ∀ earlier socket d, (n.react earlier .caller socket d).refusal = none :=
    (works_network gateway).takes
  have started : s.phase = .started := by decide +kernel
  have mode : s.settings.mode = .tunneling := by decide +kernel
  have taken : (s.sendTelegram n telegram).1.toOption = some true := by decide +kernel
  have heard : (windows ((s.sendTelegram n telegram).2.world.journal.drop
      s.world.journal.length)).map (acks 5 0) = [[], [statusOk]] := by decide +kernel
  have five : s.channelId = some 5 := by decide +kernel
  have zero : s.sequence.next = 0 := by decide +kernel
  have two : s.settings.retries.tunneling.toNat = 2 := by decide +kernel
  have history : (Session.new (.tunnelingTo Gateway.main) context).runOn [(n, .start)] = s := rfl
  have law := tried_of_sendTelegram (.tunnelingTo Gateway.main) context rfl [(n, .start)] n takes
    telegram
  rw [history] at law
  -- from here on it does not matter what the start has led to
  clear_value s
  obtain ⟨channel, socket, a, result, u, gained, held, -, -, ended, next, journal, -, tried, -⟩ :=
    law started mode
  cases five.symm.trans held
  rw [ended] at taken heard
  cases taken
  rw [journal, List.drop_left] at heard
  rw [zero] at next tried
  rw [two] at tried
  exact ⟨⟨rfl, takes, started, mode⟩, u, gained, ended, next, journal, heard, tried⟩

/-- A gateway that grants channel 5, and sends the first of these bodies after the first tunneling
request, the second after the second, and so on. -/
def answering (replies : List Body) : Gateway where
  script
    | .tunnelingRequest => replies.map fun b _ => [granting.written b]
    | service => (granting []).script service

/-- Behind an address translator, the gateway closes the channel after the first transmission, and
acknowledges the second. The helper has closed the session by then, so the acknowledgement arrives
for a socket that is gone: although it arrives in the second of two windows and says that all is
well, the telegram does not count as taken. -/
theorem misses_ack_after_disconnect :
    let n := (answering [.disconnectRequest 5 .unspecified, .ack 5 0 statusOk]).network
    let settings := { Settings.tunnelingTo Gateway.main with nat := true }
    let s := (Session.new settings (.new .nobody)).runOn [(n, .start)]
    let telegram := (Telegram.groupRead ⟨0x0A03⟩).toOption.get (by decide)
    (∀ earlier socket d, (n.react earlier .caller socket d).refusal = none) ∧
    s.phase = .started ∧ s.settings.mode = .tunneling ∧ s.settings.retries.tunneling.toNat = 2 ∧
    s.channelId = some 5 ∧ s.sequence.next = 0 ∧
    ∃ u gained, s.sendTelegram n telegram = (.ok false, u) ∧
      u.world.journal = s.world.journal ++ gained ∧ (tunneled gained).length = 2 ∧
      -- what arrives in each window for the socket of the session, and what is received
      (scripts n s.world.attempts gained).map
        (·.filterMap fun x => (s.world.receipt? x).bind (Receipt.ack? 5 0)) = [[], [statusOk]] ∧
      (windows gained).map (acks 5 0) = [[], []] := by
  intro n settings s telegram
  let u := (s.sendTelegram n telegram).2
  let gained := u.world.journal.drop s.world.journal.length
  have untaken : (s.sendTelegram n telegram).1.toOption = some false := by decide +kernel
  have ended : s.sendTelegram n telegram = (.ok false, u) :=
    Prod.ext (toOption_eq_some_iff.mp untaken) rfl
  have grown : u.world.journal = s.world.journal ++ gained := by decide +kernel
  have twice : (tunneled gained).length = 2 := by decide +kernel
  have arrives : (scripts n s.world.attempts gained).map
      (·.filterMap fun x => (s.world.receipt? x).bind (Receipt.ack? 5 0)) =
        [[], [statusOk]] := by decide +kernel
  have unheard : (windows gained).map (acks 5 0) = [[], []] := by decide +kernel
  refine ⟨(works_network _).takes, ?started, ?mode, ?attempts, ?channel, ?number, u, gained, ended,
    grown, twice, arrives, unheard⟩
  case started => decide +kernel
  case mode => decide +kernel
  case attempts => decide +kernel
  case channel => decide +kernel
  case number => decide +kernel

end Session
end KnxIp
