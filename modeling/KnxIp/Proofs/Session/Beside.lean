/-
  What goes on in a session beside starting and closing it.

  Sending, asking, receiving and the keep-alive leave the phase and the channel as they are. The
  known values change only by what was received or what the application does to them, and somebody
  is told to close the session only when the peer has asked for it, for the channel that is held, or
  when the keep-alive has given the connection up (`Session.Beside`).
-/
import KnxIp.Client
import KnxIp.Proofs.Network.Hearing

namespace KnxIp

open Journal StatusPool

/-- A world without sockets has none after it has gone on. -/
theorem World.sockets_of_goes {w v : World} {asked : List UInt8} (goes : w.Up → w.Goes asked v)
    (bare : w.sockets = []) : v.sockets = [] := by
  have up : w.Up := by simp [Up, bare]
  exact (goes up).sockets.trans bare

namespace Session

/-- The keep-alive has given the connection up. -/
def GaveUp (s : Session) : Prop := ∃ m, s.monitor = some m ∧ m.watch.phase = .over true

/-- The second session has come about from the first one beside all starting and closing. The known
values went through these operations. -/
structure Beside (operations : List StatusPool.Operation) (s t : Session) : Prop where
  settings : t.settings = s.settings
  phase : t.phase = s.phase
  closed : t.closed = s.closed
  negotiated : t.negotiated = s.negotiated
  closersRun : t.closersRun = s.closersRun
  sockets : s.world.sockets = [] → t.world.sockets = []
  monitor : s.monitor = none → t.monitor = none
  gaveUp : s.GaveUp → t.GaveUp
  channelId : t.channelId = s.channelId
  status : t.context.status = s.context.status.run operations
  journal : ∃ since, t.world.journal = s.world.journal ++ since ∧
    (renewals operations).Sublist (values since) ∧
    (t.context.connection.told ≠ s.context.connection.told →
      t.GaveUp ∨ ∃ id, s.channelId = some id ∧ id ∈ peerDisconnects since)

namespace Beside

variable {operations : List StatusPool.Operation} {s t : Session}

/-- Something is sent or received. -/
theorem withWorld {w : World} (bare : s.world.sockets = [] → w.sockets = [])
    (heard : s.world.Hears operations w) : Beside operations s { s with world := w } where
  settings := rfl
  phase := rfl
  closed := rfl
  negotiated := rfl
  closersRun := rfl
  sockets := bare
  monitor := id
  gaveUp := id
  channelId := heard.channelId
  status := heard.status
  journal := by
    obtain ⟨since, grown, brought, asked⟩ := heard.journal
    exact ⟨since, grown, brought, fun changed => .inr (asked changed)⟩

theorem refl (s : Session) : Beside [] s s := withWorld id (.refl _)

/-- Another number comes next. -/
theorem withSequence (h : Beside operations s t) (sequence : SequenceCounter) :
    Beside operations s { t with sequence } :=
  ⟨h.settings, h.phase, h.closed, h.negotiated, h.closersRun, h.sockets, h.monitor, h.gaveUp,
    h.channelId, h.status, h.journal⟩

/-- The application changes the known values, and brings none into them. -/
theorem withStatus (op : StatusPool.Operation) (bringsNone : op.update? = none) :
    Beside [op] s (s.withContext fun c => { c with status := c.status.apply op }) where
  settings := rfl
  phase := rfl
  closed := rfl
  negotiated := rfl
  closersRun := rfl
  sockets := id
  monitor := id
  gaveUp := id
  channelId := rfl
  status := rfl
  journal := by
    refine ⟨[], (List.append_nil _).symm, ?_, fun changed => (changed rfl).elim⟩
    rw [renewals, List.filterMap_cons, bringsNone]
    exact .refl _

end Beside

variable (n : Network) (s : Session)

theorem beside_sendWorld (socket : Socket) (b : Body) :
    ∃ operations, Beside operations s { s with world := (s.world.send n socket b).2 } := by
  obtain ⟨operations, heard⟩ := s.world.hears_send n socket b
  exact ⟨operations, .withWorld
    (World.sockets_of_goes (World.goes_send n s.world · socket b)) heard⟩

theorem beside_send (b : Body) : ∃ operations, Beside operations s (s.send n b).2 := by
  unfold send
  split
  · exact ⟨[], .refl s⟩
  · exact s.beside_sendWorld n _ b

theorem beside_request (b : Body) : ∃ operations, Beside operations s (s.request n b).2 := by
  unfold request
  split
  · exact ⟨[], .refl s⟩
  · obtain ⟨operations, heard⟩ := s.world.hears_request n _ b
    exact ⟨operations, .withWorld
      (World.sockets_of_goes (World.goes_request n s.world · _ b)) heard⟩

theorem beside_arrive (address source : Endpoint) (bytes : Bytes) :
    ∃ operations, Beside operations s (s.arrive n address source bytes) := by
  obtain ⟨operations, heard⟩ := s.world.hears_arrive n address (.datagram source bytes)
  exact ⟨operations, .withWorld
    (World.sockets_of_goes (World.goes_arrive n s.world · address _)) heard⟩

/-- The keep-alive tells that the connection is to be closed when it gives up, and stays over. -/
theorem beside_keepAlive : ∃ operations, Beside operations s (s.keepAlive n) := by
  unfold keepAlive
  split
  case h_1 => exact ⟨[], .refl s⟩
  case h_2 m watched =>
    have bare := World.sockets_of_goes (World.goes_watch n s.world · m.socket m.endpoint m.watch)
    have stays : m.watch.phase = .over true →
        (s.world.watch n m.socket m.endpoint m.watch).1.phase = .over true := by
      intro gone
      rw [s.world.watch_of_over n m.socket m.endpoint gone]
      exact gone
    have heard := s.world.hears_watch n m.socket m.endpoint m.watch
    generalize s.world.watch n m.socket m.endpoint m.watch = ended at bare stays heard ⊢
    obtain ⟨watch, w⟩ := ended
    have still : s.GaveUp → watch.phase = .over true := by
      rintro ⟨m', watched', gone⟩
      obtain rfl := Option.some.inj (watched.symm.trans watched')
      exact stays gone
    have unwatched : s.monitor = none → False := fun none => by cases watched.symm.trans none
    obtain ⟨operations, heard⟩ | ⟨gone, operations, v, heard, rfl⟩ := heard
    · obtain ⟨since, grown, brought, asked⟩ := heard.journal
      exact ⟨operations, rfl, rfl, rfl, rfl, rfl, bare, fun none => (unwatched none).elim,
        fun gaveUp => ⟨_, rfl, still gaveUp⟩, heard.channelId, heard.status, since, grown, brought,
        fun changed => .inr (asked changed)⟩
    · obtain ⟨since, grown, brought, -⟩ := heard.journal
      have channelId : v.giveUp.channelId = v.channelId :=
        ((Context.keeps_report _ _).trans (Context.keeps_requestClose _)).channelId
      exact ⟨operations, rfl, rfl, rfl, rfl, rfl, bare, fun none => (unwatched none).elim,
        fun _ => ⟨_, rfl, gone⟩, channelId.trans heard.channelId, heard.status, since, grown,
        brought, fun _ => .inl ⟨_, rfl, gone⟩⟩

end Session
end KnxIp
