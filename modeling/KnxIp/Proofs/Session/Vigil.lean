/-
  When the keep-alive asks, and when it gives the connection up.

  A turn is judged by what it does in the world for the entries that it adds to the record
  (`Shown`), and the entries by those before them (`Follows`). Asking hands one request over
  (`Asks`); giving up counts an error, queues one event and tells the listener, and nothing else
  (`World.GivesUp`). A run without end is judged by its beginnings. If nobody else has a turn, a
  vigil goes on as in a session (`conclude_wake`).

  Main statement: whatever the turns are, each entry of the record follows from those before it,
  nothing is done after the connection was given up or no channel was found, and each turn does what
  it writes down (`record_of_run`).
-/
import KnxIp.Proofs.Network.Checks
import KnxIp.Proofs.Session.Watching

namespace KnxIp

namespace World

/-- The connection was given up: that it is lost was reported, and who wants to be told was told
that it is to be closed. Nothing else in the world has changed. -/
structure GivesUp (w v : World) : Prop where
  reports : w.context.Reports (.connection .connectionLost) v.context
  connection : v.context.connection = { w.context.connection with
    told := w.context.connection.told ++ w.context.connection.listener.toList }
  sockets : v.sockets = w.sockets
  journal : v.journal = w.journal
  opened : v.opened = w.opened

theorem givesUp_giveUp (w : World) : w.GivesUp w.giveUp := by
  obtain ⟨reports, connection⟩ := w.context.reports_report (.connection .connectionLost)
  refine ⟨⟨reports.statistics, reports.observers, reports.correlator, reports.status⟩, ?_, rfl, rfl,
    rfl⟩
  show (w.context.report (.connection .connectionLost)).requestClose.connection = _
  rw [Context.connection_requestClose, connection]

end World

namespace Vigil

/-! ## What a turn does -/

/-- The watch asks about a channel: one request is handed over to the gateway, and the check is
positive if the response that is found is. -/
structure Asks (v : Vigil) (n : Network) (c : UInt8) (w : Vigil) : Prop where
  handed : ∃ a, v.world.Hands w.world a ∧ a.socket = v.socket.address ∧
    a.datagram.destination = v.socket.peers.ofChannel .control ∧
    a.datagram.body? = some (.connectionStateRequest c v.endpoint)
  outcome : w.outcome = .ok true ↔ ∃ channel,
    (v.world.request n v.socket (.connectionStateRequest c v.endpoint)).1 =
      .ok (some (.connectionStateResponse channel statusOk))

/-- What an entry of the record says about the turn that has added it. -/
def Means (v : Vigil) (t : Turn) (w : Vigil) : Mark → Prop
  | .woke channel => v.world.context.connection.channelId = channel
  | .asked c => ∃ n, t = .wake n ∧ v.Asks n c w
  | .ended alive => alive = true ↔ v.outcome = .ok true
  | .gaveUp => v.world.GivesUp w.world
  | .stopped => t = .stop

/-- What a turn does, and which entries it adds to the record. -/
structure Shown (v : Vigil) (t : Turn) (w : Vigil) (added : List Mark) : Prop where
  record : w.record = v.record ++ added
  place : w.socket = v.socket ∧ w.endpoint = v.endpoint
  meant : ∀ x ∈ added, v.Means t w x
  wakes : ∀ n, t = .wake n → Rested v.record → .stopped ∉ v.record →
    ∃ channel, .woke channel ∈ added
  concludes : ∀ c, t = .conclude → last? v.record = some (.asked c) →
    ∃ alive, .ended alive ∈ added
  stops : t = .stop → .stopped ∈ added
  /-- Only a request has an outcome. -/
  outcome : (∀ c, .asked c ∉ added) → w.outcome = v.outcome
  /-- Only asking and giving up change the world, unless others do. -/
  world : (∀ c, .asked c ∉ added) → .gaveUp ∉ added → (∀ world, t ≠ .meanwhile world) →
    w.world = v.world

theorem asks_check (n : Network) (v : Vigil) (c : UInt8) (watch : KeepAlive)
    (record : List Mark) : v.Asks n c { v with
      watch
      outcome := (v.world.check n v.socket c v.endpoint).1
      world := (v.world.check n v.socket c v.endpoint).2
      record } := by
  obtain ⟨bytes, written, read⟩ := Frame.bodyIn?_of_representable
    (b := .connectionStateRequest c v.endpoint) trivial (Nat.le_of_ble_eq_true rfl)
  obtain ⟨refused, hands⟩ := World.hands_request n v.world v.socket written ⟨_, rfl⟩
  rw [← World.world_check] at hands
  exact ⟨⟨_, hands, rfl, rfl, read⟩, World.check_eq_ok_true_iff ..⟩

theorem shown_nothing (v : Vigil) {t : Turn} (other : t ≠ .stop)
    (busy : ∀ n, t = .wake n → Rested v.record → .stopped ∈ v.record)
    (idle : ∀ c, t = .conclude → last? v.record ≠ some (.asked c)) : v.Shown t v [] where
  record := (List.append_nil _).symm
  place := ⟨rfl, rfl⟩
  meant := nofun
  wakes n waking rested running := absurd (busy n waking rested) running
  concludes c ending asked := absurd asked (idle c ending)
  stops same := absurd same other
  outcome _ := rfl
  world _ _ _ := rfl

theorem exists_shown_wake {m : Nat} {v : Vigil} (h : Attested m v.watch v.record) (n : Network) :
    ∃ added, v.Shown (.wake n) (v.wake n) added := by
  unfold wake
  split
  · dsimp only
    split
    · next c checks =>
      exact ⟨[.woke v.world.context.connection.channelId, .asked c],
        { record := List.append_assoc ..
          place := ⟨rfl, rfl⟩
          meant := List.forall_mem_cons.mpr ⟨rfl, List.forall_mem_singleton.mpr
            ⟨n, rfl, v.asks_check n c _ _⟩⟩
          wakes := fun _ _ _ _ => ⟨_, List.mem_cons_self⟩
          concludes := nofun
          stops := nofun
          outcome := fun unasked => absurd (by simp) (unasked c)
          world := fun unasked => absurd (by simp) (unasked c) }⟩
    · exact ⟨[.woke v.world.context.connection.channelId],
        { record := rfl
          place := ⟨rfl, rfl⟩
          meant := List.forall_mem_singleton.mpr rfl
          wakes := fun _ _ _ _ => ⟨_, List.mem_cons_self⟩
          concludes := nofun
          stops := nofun
          outcome := fun _ => rfl
          world := fun _ _ _ => rfl }⟩
  · next busy =>
    refine ⟨[], shown_nothing v nofun (fun _ _ rested => ?_) nofun⟩
    exact Decidable.not_not.mp fun running => busy (h.rests rested running)

theorem exists_shown_conclude {m : Nat} {v : Vigil} (h : Attested m v.watch v.record) :
    ∃ added, v.Shown .conclude v.conclude added := by
  unfold conclude
  split
  · dsimp only
    split
    · exact ⟨[.ended v.foundAlive, .gaveUp],
        { record := List.append_assoc ..
          place := ⟨rfl, rfl⟩
          meant := List.forall_mem_cons.mpr ⟨foundAlive_iff,
            List.forall_mem_singleton.mpr v.world.givesUp_giveUp⟩
          wakes := nofun
          concludes := fun _ _ _ => ⟨_, List.mem_cons_self⟩
          stops := nofun
          outcome := fun _ => rfl
          world := fun _ kept => absurd (by simp) kept }⟩
    · exact ⟨[.ended v.foundAlive],
        { record := rfl
          place := ⟨rfl, rfl⟩
          meant := List.forall_mem_singleton.mpr foundAlive_iff
          wakes := nofun
          concludes := fun _ _ _ => ⟨_, List.mem_cons_self⟩
          stops := nofun
          outcome := fun _ => rfl
          world := fun _ _ _ => rfl }⟩
  · next idle =>
    refine ⟨[], shown_nothing v nofun nofun fun c _ asked => ?_⟩
    exact idle c ((h.checking c).mpr asked)

/-- Each turn adds entries to the record, and does what they say. -/
theorem exists_shown {m : Nat} {v : Vigil} (h : Attested m v.watch v.record) (t : Turn) :
    ∃ added, v.Shown t (v.apply t) added := by
  cases t with
  | wake n => exact exists_shown_wake h n
  | conclude => exact exists_shown_conclude h
  | stop =>
    exact ⟨[.stopped],
      { record := rfl
        place := ⟨rfl, rfl⟩
        meant := List.forall_mem_singleton.mpr rfl
        wakes := nofun
        concludes := nofun
        stops := fun _ => List.mem_cons_self
        outcome := fun _ => rfl
        world := fun _ _ _ => rfl }⟩
  | meanwhile world =>
    exact ⟨[],
      { record := (List.append_nil _).symm
        place := ⟨rfl, rfl⟩
        meant := nofun
        wakes := nofun
        concludes := nofun
        stops := nofun
        outcome := fun _ => rfl
        world := fun _ _ own => absurd rfl (own world) }⟩

/-- A watch that wakes and whose check ends with nothing in between does what it does in one
interval of a session. -/
theorem conclude_wake (n : Network) {v : Vigil} (free : ∀ c, v.watch.phase ≠ .checking c) :
    ((v.wake n).conclude.watch, (v.wake n).conclude.world) =
      v.world.watch n v.socket v.endpoint v.watch := by
  cases phase : v.watch.phase with
  | resting =>
    unfold wake World.watch
    rw [phase]
    dsimp only
    obtain ⟨-, same⟩ | ⟨-, -, same⟩ | ⟨c, -, -, same⟩ :=
      KeepAlive.due_cases phase v.world.context.connection.channelId
    · rw [same]
      rfl
    · rw [same]
      rfl
    · rw [same]
      unfold conclude
      dsimp only
      split
      · next lost => exact (congrArg (Prod.mk _) (if_pos lost)).symm
      · next kept => exact (congrArg (Prod.mk _) (if_neg kept)).symm
  | checking c => exact absurd phase (free c)
  | _ =>
    have rested : v.watch.due v.world.context.connection.channelId = v.watch := by
      unfold KeepAlive.due
      rw [phase]
    simp [wake, conclude, World.watch, rested, phase]

/-- Whatever happens to a watch and around it, each entry of its record follows from those before
it; it gives up at most once, and does nothing after that, nor after it has found no channel; and
each turn does what its entries say. -/
theorem record_of_run (socket : Socket) (endpoint : Endpoint) (m : Nat) (world : World)
    (turns : List Turn) :
    let v := begin socket endpoint m world
    let record := (v.run turns).record
    (∀ before after, record = before ++ after → Follows m before after.head?) ∧
    record.count .gaveUp ≤ 1 ∧
    (∀ before x after, record = before ++ x :: after → x = .gaveUp ∨ x = .woke none →
      ∀ y ∈ after, y = .stopped) ∧
    ∀ earlier t later, turns = earlier ++ t :: later →
      ∃ added, (v.run earlier).Shown t (v.run (earlier ++ [t])) added := by
  intro v record
  have attested : Attested m (v.run turns).watch record := attested_run (attested_new m) turns
  have follows : ∀ before after, record = before ++ after → Follows m before after.head? := by
    intro before after parts
    simpa using attested.led.follows attested.settled parts
  have final : ∀ before x after, record = before ++ x :: after → x = .gaveUp ∨ x = .woke none →
      ∀ y ∈ after, y = .stopped := by
    intro before x after parts last
    have own : x ≠ .stopped := by
      obtain rfl | rfl := last <;> nofun
    refine stopped_of_last (m := m) (last?_concat before own) last fun first rest split => ?_
    refine follows _ rest ?_
    rw [parts, split]
    simp
  refine ⟨follows, ?_, final, fun earlier t later _ => ?_⟩
  · by_cases mem : .gaveUp ∈ record
    · obtain ⟨before, after, parts, first⟩ := List.eq_append_cons_of_mem mem
      have none : .gaveUp ∉ after := fun again => by cases final _ _ _ parts (.inl rfl) _ again
      have before := List.count_eq_zero.mpr first
      have after := List.count_eq_zero.mpr none
      rw [parts, List.count_append, List.count_cons_self]
      omega
    · have none := List.count_eq_zero.mpr mem
      omega
  · rw [run_append]
    exact exists_shown (attested_run (attested_new m) earlier) t

/-- On a network that never answers, the second check in a row is the last. -/
example :
    let context := (Context.new (.pool [] 1)).withConnection fun c => { c with channelId := some 2 }
    let socket := Socket.new .control .unspecified ⟨⟨192, 168, 1, 10⟩, 3671⟩
    ((begin socket .unspecified 2 (.new context)).run
      [.wake .quiet, .conclude, .wake .quiet, .conclude, .wake .quiet]).record =
        [.woke (some 2), .asked 2, .ended false, .woke (some 2), .asked 2, .ended false,
          .gaveUp] := rfl

end Vigil
end KnxIp
