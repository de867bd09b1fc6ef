/-
  What a session learns while it starts.

  The services of a start take no sequence number and run no helper, and nobody is told to close
  the session: there is no channel that the peer could close before the gateway has granted one, and
  nothing is received between the grant and the end. The known values change by what is received
  (`starting_services`).
-/
import KnxIp.Proofs.Network.Hearing
import KnxIp.Proofs.Session.Starting

namespace KnxIp.Session

open Journal StatusPool

/-- The second session has come about from the first one while starting. -/
structure Starting (s t : Session) : Prop where
  settings : t.settings = s.settings
  phase : t.phase = s.phase
  closed : t.closed = s.closed
  sequence : t.sequence = s.sequence
  closersRun : t.closersRun = s.closersRun
  told : t.context.connection.told = s.context.connection.told
  heard : ∃ operations since, t.context.status = s.context.status.run operations ∧
    t.world.journal = s.world.journal ++ since ∧ (renewals operations).Sublist (values since)

namespace Starting

theorem refl (s : Session) : s.Starting s :=
  ⟨rfl, rfl, rfl, rfl, rfl, rfl, [], [], rfl, (List.append_nil _).symm, .refl _⟩

variable {s t : Session}

/-- Other sockets, another channel or another keep-alive do not count. -/
theorem withWorld {w : World} (h : s.Starting t) (negotiated : Negotiated)
    (monitor : Option Monitor) (told : w.context.connection.told = t.context.connection.told)
    (status : w.context.status = t.context.status) (journal : w.journal = t.world.journal) :
    s.Starting { t with world := w, negotiated, monitor } := by
  obtain ⟨operations, since, learned, grown, brought⟩ := h.heard
  exact ⟨h.settings, h.phase, h.closed, h.sequence, h.closersRun, told.trans h.told, operations,
    since, status.trans learned, journal.trans grown, brought⟩

/-- Without a channel nobody can be told to close the session. -/
theorem hears {operations : List StatusPool.Operation} {w : World} (h : s.Starting t)
    (free : t.channelId = none) (heard : t.world.Hears operations w) :
    s.Starting { t with world := w } := by
  obtain ⟨before, past, learned, grown, brought⟩ := h.heard
  obtain ⟨since, more, brings, asked⟩ := heard.journal
  have told : w.context.connection.told = t.context.connection.told := by
    refine Decidable.byContradiction fun changed => ?_
    obtain ⟨id, held, -⟩ := asked changed
    cases held.symm.trans free
  refine ⟨h.settings, h.phase, h.closed, h.sequence, h.closersRun, told.trans h.told,
    before ++ operations, past ++ since, ?_, ?_, ?_⟩
  · show w.context.status = _
    rw [heard.status, learned, StatusPool.run_append]
  · show w.journal = _
    rw [more, grown, List.append_assoc]
  · rw [renewals_append, values_append]
    exact brought.append brings

end Starting

namespace Start

variable {α : Type} (n : Network) (s : Session)

/-- So far has a start got: there is no channel yet. -/
def Waits (t : Session) : Prop := s.Starting t ∧ t.channelId = none

theorem starting_onWorld {f : World → Except Failure α × World}
    (hears : ∀ w : World, ∃ operations, w.Hears operations (f w).2) :
    Ensures (onWorld f) (Waits s) (fun _ => Waits s) s.Starting := by
  refine .onWorld fun t ⟨starting, free⟩ => ?_
  obtain ⟨operations, heard⟩ := hears t.world
  have after := starting.hears free heard
  have still : (f t.world).2.channelId = none := heard.channelId.trans free
  generalize f t.world = result at after still ⊢
  obtain ⟨result, w⟩ := result
  cases result with
  | ok a => exact ⟨after, still⟩
  | error e => exact after

theorem starting_bind (role : Role) (here peer : Endpoint) :
    Ensures (onWorld (·.bind n role here peer)) (Waits s) (fun _ => Waits s) s.Starting :=
  starting_onWorld s fun w => ⟨[], w.hears_bind n role here peer⟩

theorem starting_negotiate (f : Negotiated → Negotiated) :
    Ensures (negotiate f) (Waits s) (fun _ => Waits s) s.Starting :=
  .modify fun _ ⟨starting, free⟩ => ⟨starting.withWorld _ _ rfl rfl rfl, free⟩

theorem starting_routing : Ensures (routing n) (Waits s) (fun _ => s.Starting) s.Starting := by
  unfold routing
  refine .get_bind fun t waits => ?_
  refine ((starting_bind n s .routing _ _).of_known waits).bind fun _ => ?_
  exact (starting_negotiate s _).mono fun _ _ h => h.1

theorem starting_gateway (settings : Settings) :
    Ensures (gateway n settings) (Waits s) (fun _ => Waits s) s.Starting := by
  unfold gateway
  split
  · exact .pure fun _ h => h
  · exact (starting_onWorld s (World.hears_discover n · settings)).bind fun _ => .pure fun _ h => h

theorem starting_openSockets (settings : Settings) (remote : Endpoint) :
    Ensures (openSockets n settings remote) (Waits s) (fun _ => Waits s) s.Starting := by
  unfold openSockets
  dsimp only
  split
  · exact (starting_bind n s .shared _ _).bind fun _ => .pure fun _ h => h
  · refine (starting_bind n s .control _ _).bind fun _ => ?_
    exact (starting_bind n s .data _ _).bind fun _ => .pure fun _ h => h

theorem starting_connect (settings : Settings) (control : Socket)
    (endpoints : Endpoint × Endpoint) :
    Ensures (connect n settings control endpoints) (Waits s) (fun _ => Waits s) s.Starting := by
  unfold connect
  refine (starting_onWorld s fun w => w.hears_repeatRequest n control _ Grant.ofBody _ none).bind
    fun ended => ?_
  cases ended with
  | accepted grant => exact .pure fun _ h => h
  | exhausted last => exact .throw fun _ h => h.1

theorem starting_accept (remote : Endpoint) (data : Socket) (grant : Grant) :
    Ensures (accept remote data grant) (Waits s) (fun _ => s.Starting) s.Starting := by
  unfold accept
  refine Ensures.bind (Q := fun _ => s.Starting)
    (.modify fun _ h => h.1.withWorld _ _ rfl rfl rfl) fun _ => ?_
  have noted : Ensures (negotiate fun g =>
      { g with tunnelAddress := grant.assigned.map (·.address) })
      s.Starting (fun _ => s.Starting) s.Starting :=
    .modify fun _ h => h.withWorld _ _ rfl rfl rfl
  split
  · exact Ensures.bind (Q := fun _ => s.Starting)
      (.modify fun _ h => h.withWorld _ _ rfl rfl rfl) fun _ => noted
  · exact noted

theorem starting_keepWatch (settings : Settings) (control : Socket) (endpoint : Endpoint) :
    Ensures (keepWatch n settings control endpoint) s.Starting (fun _ => s.Starting)
      s.Starting := by
  unfold keepWatch
  refine .get_bind fun t starting => .of_known ?_ starting
  split
  · exact .throw fun _ h => h
  · exact .modify fun _ h => h.withWorld _ _ rfl rfl rfl

theorem starting_tunneling : Ensures (tunneling n) (Waits s) (fun _ => s.Starting) s.Starting := by
  unfold tunneling
  refine .get_bind fun t waits => ?_
  refine ((starting_gateway n s t.settings).of_known waits).bind fun remote => ?_
  refine (starting_negotiate s _).bind fun _ => ?_
  refine (starting_onWorld s
    (World.hears_describeForTunneling n · t.settings remote)).bind fun description => ?_
  refine (starting_negotiate s _).bind fun _ => ?_
  unfold openTunnel
  refine (starting_openSockets n s t.settings remote).bind fun sockets => ?_
  refine (starting_negotiate s _).bind fun _ => ?_
  refine (starting_connect n s t.settings _ _).bind fun grant => ?_
  exact (starting_accept s remote _ grant).bind fun _ => starting_keepWatch n s t.settings _ _

/-- Whatever the network does, the services of a start leave the sequence numbers, the helpers and
who was told as they are, and the known values change only by what is received. -/
theorem starting_services (free : s.channelId = none) : s.Starting (services n s).2 := by
  have ended : Ensures (services n) (Waits s) (fun _ => s.Starting) s.Starting := by
    unfold services
    refine .get_bind fun t waits => ?_
    dsimp only
    split
    · exact .of_known (.throw fun _ h => h.1) waits
    · split
      · exact (starting_routing n s).of_known waits
      · exact (starting_tunneling n s).of_known waits
  have reached := ended s ⟨.refl s, free⟩
  generalize services n s = result at reached ⊢
  obtain ⟨result, t⟩ := result
  cases result <;> exact reached

end Start
end KnxIp.Session
